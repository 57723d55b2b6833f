import Criteria.Declaration
/-!
# Catalogues

The registered conditions in the order of their registration, with an index of their names. A
condition is registered when it has no defect and its name is new.
-/
namespace Criteria

inductive RegistrationError
  | duplicate (name : String)
  | unknownType (name type : String)
  | malformed (name : String) (defect : Defect)
deriving DecidableEq, Repr

def RegistrationError.message : RegistrationError → String
  | duplicate name => s!"条件重复注册: {name}"
  | unknownType name type => s!"条件 {name} 使用了未知的值类型: {type}"
  | malformed name defect => s!"条件定义无效: {name} - {defect.message}"

namespace Declaration

/-- The declared operators; the first that is unknown is a defect. -/
def readOperators (names : List String) : Except Defect (List Operator) :=
  names.mapM fun s =>
    match Operator.parse? s with
    | some op => .ok op
    | none => .error (.unknownOperator s)

def condition (d : Declaration) : Except RegistrationError Condition :=
  match ValueType.parse? d.type with
  | none => .error (.unknownType d.name d.type)
  | some type =>
    match (d.operators.mapM readOperators : Except Defect (Option (List Operator))) with
    | .error defect => .error (.malformed d.name defect)
    | .ok ops => .ok {
        name := d.name
        label := d.label.getD d.name
        group := d.group.getD ""
        type := type
        explicitOperators := ops
        origin := some (.argument (d.argument.getD d.name))
        required := Names.ofList d.required }

end Declaration

/-- The index holds the position of every condition under its name. -/
structure Catalogue where
  conditions : List Condition
  index : Table Nat

namespace Catalogue

def empty : Catalogue := ⟨[], []⟩

instance : Inhabited Catalogue := ⟨empty⟩

def register (k : Catalogue) (c : Condition) : Except RegistrationError Catalogue :=
  match c.defect? with
  | some defect => .error (.malformed c.name defect)
  | none =>
    if (k.index.find? c.name).isSome then .error (.duplicate c.name)
    else .ok ⟨k.conditions ++ [c], k.index.insert c.name k.conditions.length⟩

def declare (k : Catalogue) (d : Declaration) : Except RegistrationError Catalogue :=
  d.condition.bind k.register

def ofConditions (cs : List Condition) : Except RegistrationError Catalogue :=
  cs.foldlM register empty

def ofDeclarations (ds : List Declaration) : Except RegistrationError Catalogue :=
  ds.foldlM declare empty

def get? (k : Catalogue) (name : String) : Option Condition :=
  (k.index.find? name).bind (k.conditions[·]?)

def contains (k : Catalogue) (name : String) : Bool :=
  (k.index.find? name).isSome

def operators? (k : Catalogue) (name : String) : Option (List Operator) :=
  (k.get? name).map Condition.operators

def size (k : Catalogue) : Nat :=
  k.conditions.length

/-- Put a condition behind the others of its group, or start a new group at the end. -/
def addToGroup : List (String × List Condition) → Condition → List (String × List Condition)
  | [], c => [(c.group, [c])]
  | (group, members) :: rest, c =>
    if group = c.group then (group, members ++ [c]) :: rest
    else (group, members) :: addToGroup rest c

/-- The conditions by group, in the order in which the groups first occur. -/
def grouped (k : Catalogue) : List (String × List Condition) :=
  k.conditions.foldl addToGroup []

end Catalogue
end Criteria
