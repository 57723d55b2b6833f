import Criteria.Context
import Criteria.Names
import Criteria.ValueType
/-!
# Conditions

What a rule can refer to: a named fact of one value type, where its live value comes from, the
operators it allows, and what is wrong with a condition that cannot be registered.
-/
namespace Criteria

structure ResolutionError where
  condition : String
  reason : String
deriving DecidableEq, Repr

def ResolutionError.message (e : ResolutionError) : String :=
  s!"条件 {e.condition} 取值失败: {e.reason}"

/-- How a resolver can fail: it reports an error, or it breaks down, perhaps with a last word. -/
inductive Resolver.Fault
  | reported (e : ResolutionError)
  | crashed (word : Option String)
deriving DecidableEq, Repr

/-- A computed fact: a function of the context and of the text that the rule's author wrote. -/
abbrev Resolver := Context → Option String → Except Resolver.Fault Value

inductive Origin
  | argument (key : String)
  | resolver (run : Resolver) (passAuthored : Bool)

/-- A condition. Without operators of its own it allows those of its type, and a truth value without
an origin is read under the name of the condition. -/
structure Condition where
  name : String
  label : String
  group : String
  type : ValueType
  explicitOperators : Option (List Operator)
  origin : Option Origin
  required : Names

namespace Condition

def ofOrigin (name : String) (type : ValueType) (origin : Option Origin) : Condition :=
  ⟨name, name, "", type, none, origin, []⟩

/-- Let a resolver see the text that the rule's author wrote. -/
def withAuthored (c : Condition) : Condition :=
  match c.origin with
  | some (.resolver run _) => { c with origin := some (.resolver run true) }
  | _ => c

def require (c : Condition) (keys : List String) : Condition :=
  { c with required := c.required.insertAll keys }

def operators (c : Condition) : List Operator :=
  c.explicitOperators.getD c.type.operators

def allows (c : Condition) (op : Operator) : Bool :=
  c.operators.contains op

/-- The context key that the condition reads; a resolver reads what it likes. -/
def key? (c : Condition) : Option String :=
  match c.origin with
  | some (.argument key) => some key
  | some (.resolver ..) => none
  | none => some c.name

/-- A required argument that the context does not have. -/
def missingArgument? (c : Condition) (context : Context) : Option String :=
  c.required.find? fun key => !context.has key

end Condition

inductive Defect
  | blankName
  | noOrigin
  | blankKey
  | noOperators
  | unsupported (op : Operator) (type : ValueType)
  | unknownOperator (text : String)
deriving DecidableEq, Repr

namespace Defect

def message : Defect → String
  | blankName => "条件名不能为空"
  | noOrigin => "非布尔条件必须指定参数键或取值回调"
  | blankKey => "参数键不能为空"
  | noOperators => "显式操作符集合不能为空"
  | unsupported op type => s!"操作符 {op.name} 不适用于类型 {type.name}"
  | unknownOperator text => Operator.unknownMessage text

end Defect

namespace Condition

def originDefect? (c : Condition) : Option Defect :=
  match c.origin with
  | none => if c.type = .boolean then none else some .noOrigin
  | some (.argument key) => if Text.isAllBlank key then some .blankKey else none
  | some (.resolver ..) => none

def operatorDefect? (c : Condition) : Option Defect :=
  c.explicitOperators.bind fun ops =>
    if ops.isEmpty then some .noOperators
    else (ops.find? fun op => !c.type.supports op).map fun op => .unsupported op c.type

def defect? (c : Condition) : Option Defect :=
  if Text.isAllBlank c.name then some .blankName
  else c.originDefect?.or c.operatorDefect?

end Condition
end Criteria
