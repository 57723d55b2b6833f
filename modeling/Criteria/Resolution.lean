import Criteria.Condition
/-!
# Resolution

The two operands of a rule: the live value, which comes from the context or from a resolver, and the
threshold, which is a part of what the rule's author wrote.
-/
namespace Criteria

structure Operands where
  live : Value
  threshold : Value

/-- A call of a resolver: its condition, the context, and the authored text that it was given. -/
structure Call where
  condition : String
  context : Context
  authored : Option String

/-- The authored value to compare with. Where a unit belongs to it, it is a member of an object, or
else the authored value itself. -/
def ValueType.threshold (t : ValueType) (authored : Value) : Value :=
  match t.measure?, authored with
  | some field, .object members => (Table.find? members field).getD .null
  | _, _ => authored

/-- The entry that a resolver finds when the authored object has a member: an underscore is set
before its name. -/
def injection (members : Table Value) (name : String) : Table Value :=
  match members.find? name with
  | some v => [("_" ++ name, v)]
  | none => []

/-- What is laid over the context of a resolver: the measure and the unit of an authored object. -/
def ValueType.injected (t : ValueType) (authored : Value) : Table Value :=
  match t.measure?, authored with
  | some field, .object members =>
    injection members field ++ injection members "unit"
  | _, _ => []

mutual

/-- The text that an author wrote: of a scalar its text, of an object that of its member `text`, or
else of its member `number`. -/
def Value.authoredText? : Value → Option String
  | .object members =>
    match authoredMember? "text" members with
    | some r => r
    | none => (authoredMember? "number" members).join
  | v => v.scalarText?

/-- The authored text of the member under a name, when there is one. -/
def Value.authoredMember? (name : String) : List (String × Value) → Option (Option String)
  | [] => none
  | (k, v) :: rest => if k = name then some v.authoredText? else authoredMember? name rest

end

namespace Condition

def crashReason : Option String → String
  | some word => s!"回调 panic: {word}"
  | none => "回调 panic"

/-- The error that a fault of the condition's resolver amounts to. -/
def errorOf (c : Condition) : Resolver.Fault → ResolutionError
  | .reported e => e
  | .crashed word => ⟨c.name, crashReason word⟩

/-- The call of the resolver for an authored value. -/
def call (c : Condition) (passAuthored : Bool) (authored : Value) (context : Context) : Call where
  condition := c.name
  context := context.overlay (c.type.injected authored)
  authored := if passAuthored then authored.authoredText? else none

/-- The value of a context key, or the zero of the type when the context has none. -/
def argument (c : Condition) (key : String) (context : Context) : Value :=
  (context.get? key).getD c.type.zero

/-- The live value, and the calls that it took. -/
def live (c : Condition) (authored : Value) (context : Context) :
    Except ResolutionError Value × List Call :=
  match c.origin with
  | some (.argument key) => (.ok (c.argument key context), [])
  | none => (.ok (c.argument c.name context), [])
  | some (.resolver run passAuthored) =>
    let call := c.call passAuthored authored context
    ((run call.context call.authored).mapError c.errorOf, [call])

/-- Both operands of a rule on the condition, and the calls that they took. -/
def resolve (c : Condition) (authored : Value) (context : Context) :
    Except ResolutionError Operands × List Call :=
  let (live, calls) := c.live authored context
  (live.map fun v => ⟨v, c.type.threshold authored⟩, calls)

end Condition
end Criteria
