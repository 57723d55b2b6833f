import Criteria.Catalogue
import Criteria.Resolution
import Criteria.Ruleset
import Criteria.Threshold
/-!
# Lint

What is wrong with the form of a ruleset under a catalogue, place by place, and the context keys
that its evaluation can read.
-/
namespace Criteria

inductive Issue
  | emptyGroup
  | unknownCondition (condition : String)
  | unknownOperator (operator : String)
  | operatorNotAllowed (condition : String) (op : Operator)
  | invalidThreshold (condition : String) (op : Operator)
deriving DecidableEq, Repr

structure Finding where
  group : Nat
  rule : Option Nat
  issue : Issue
deriving DecidableEq, Repr

namespace Finding

def path (f : Finding) : String :=
  match f.rule with
  | none => s!"g{f.group}"
  | some i => s!"g{f.group}.r{i}"

def message (f : Finding) : String :=
  match f.issue with
  | .emptyGroup => s!"{f.path}: 规则组不能为空"
  | .unknownCondition c => s!"{f.path}: 未知条件 '{c}'"
  | .unknownOperator op => s!"{f.path}: 未知操作符 '{op}'"
  | .operatorNotAllowed c op => s!"{f.path}: 条件 '{c}' 不支持操作符 {op.name}"
  | .invalidThreshold c op => s!"{f.path}: 条件 '{c}' 的 {op.name} 阈值无效"

def document (f : Finding) : Value :=
  let kind (k : String) (more : List (String × String)) : Value :=
    .object ([("path", f.path), ("kind", k)] ++ more |>.map fun (k, s) => (k, .text s))
  match f.issue with
  | .emptyGroup => kind "empty_group" []
  | .unknownCondition c => kind "unknown_condition" [("condition", c)]
  | .unknownOperator op => kind "unknown_operator" [("operator", op)]
  | .operatorNotAllowed c op =>
    kind "operator_not_allowed" [("condition", c), ("operator", op.name)]
  | .invalidThreshold c op => kind "invalid_threshold" [("condition", c), ("operator", op.name)]

end Finding

namespace Catalogue

def issue? (k : Catalogue) (r : Rule) : Option Issue :=
  match k.get? r.condition with
  | none => some (.unknownCondition r.condition)
  | some c =>
    match r.operator? with
    | none => some (.unknownOperator r.operator)
    | some op =>
      if !c.allows op then some (.operatorNotAllowed r.condition op)
      else if c.type.isValidThreshold op (c.type.threshold r.value) then none
      else some (.invalidThreshold r.condition op)

/-- The findings in the rules of group `g` from position `i` on. -/
def lintRules (k : Catalogue) (g : Nat) : (i : Nat) → List Rule → List Finding
  | _, [] => []
  | i, r :: rest =>
    match k.issue? r with
    | some issue => ⟨g, some i, issue⟩ :: lintRules k g (i + 1) rest
    | none => lintRules k g (i + 1) rest

/-- The findings in the groups from position `g` on. -/
def lintGroups (k : Catalogue) : (g : Nat) → List Group → List Finding
  | _, [] => []
  | g, rs :: rest =>
    (if rs.isEmpty then [⟨g, none, .emptyGroup⟩] else k.lintRules g 0 rs) ++
      lintGroups k (g + 1) rest

/-- The findings in a ruleset, in the order of their places. -/
def lint (k : Catalogue) (r : Ruleset) : List Finding :=
  k.lintGroups 0 r.groups

/-- The context keys that a rule is known to read: the key of its condition, and what the condition
requires. -/
def ruleKeys (k : Catalogue) (r : Rule) : List String :=
  match k.get? r.condition with
  | none => []
  | some c => c.key?.toList ++ c.required

def requiredKeys (k : Catalogue) (r : Ruleset) : Names :=
  Names.ofList (r.groups.flatten.flatMap k.ruleKeys)

end Catalogue
end Criteria
