import Criteria.Comparison
import Criteria.ValueType
/-!
# Thresholds

Which thresholds are valid for a type and an operator, and the comparison of a type, which is false
whenever the threshold is not valid.
-/
namespace Criteria.ValueType

/-- The comparison of the family that a type belongs to, without any check of the threshold. -/
def family (t : ValueType) (op : Operator) (live threshold : Value) : Bool :=
  match t with
  | text | textWithUnit => Comparison.text op live threshold
  | number | numberWithUnit => Comparison.number op live threshold
  | singleSelect | referentialSingle => Comparison.select op live threshold
  | multiSelect | referentialMulti => Comparison.set op live threshold
  | boolean => Comparison.boolean op live
  | date => Comparison.date op live threshold
  | time => Comparison.time op live threshold
  | ipPattern => Comparison.ip op live threshold
  | emailPattern => Comparison.email op live threshold
  | tagSet => Comparison.tags op live threshold

/-- Whether a type can read a threshold. Only a text can be a regular expression. -/
def reads (t : ValueType) (op : Operator) (threshold : Value) : Bool :=
  match t with
  | text | textWithUnit =>
    if op = .regex then threshold.text?.any Regex.isPattern else threshold.scalarText?.isSome
  | number | numberWithUnit => threshold.finite?.isSome
  | singleSelect | referentialSingle => threshold.scalarText?.isSome
  | multiSelect | referentialMulti => threshold.textSet?.any fun ts => !ts.isEmpty
  | boolean => true
  | date => threshold.date?.isSome
  | time => threshold.time?.isSome
  | ipPattern => threshold.patterns.any fun p => (IpPattern.parse? p).isSome
  | emailPattern => threshold.patterns.any fun p => (EmailPattern.parse? p).isSome
  | tagSet => threshold.patterns.any fun p => !p.isEmpty

/-- A threshold is valid for a supported operator that ignores it, or when the type can read it. -/
def isValidThreshold (t : ValueType) (op : Operator) (threshold : Value) : Bool :=
  t.supports op && (op.ignoresThreshold || t.reads op threshold)

def compare (t : ValueType) (op : Operator) (live threshold : Value) : Bool :=
  t.isValidThreshold op threshold && t.family op live threshold

end Criteria.ValueType
