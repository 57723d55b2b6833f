import Criteria.Catalogue
/-!
# Errors

What can go wrong around a ruleset, and the message for each case.
-/
namespace Criteria

inductive EmptyIdentifier
  | source
  | ruleset (owner : String)
deriving DecidableEq, Repr

def EmptyIdentifier.message : EmptyIdentifier → String
  | .source => "来源 ID 不能为空"
  | .ruleset owner => s!"来源 '{owner}' 中的规则集 ID 不能为空"

inductive Error
  | registration (e : RegistrationError)
  | catalogueNotFound (source : String)
  | rulesetNotFound (source id : String)
  | unavailable (source reason : String)
  | invalid (e : EmptyIdentifier)
  | document (f : Json.Failure)
deriving DecidableEq, Repr

namespace Error

def message : Error → String
  | registration e => e.message
  | catalogueNotFound source => s!"条件目录未注册: {source}"
  | rulesetNotFound source id => s!"规则集未找到: source={source} id={id}"
  | unavailable source reason => s!"规则源读取失败: {source} - {reason}"
  | invalid e => s!"规则解析失败: {e.message}"
  | document f => s!"JSON 序列化错误: {f.message}"

end Error

/-- Read a catalogue from the text of a list of declarations; the first error decides. -/
def Catalogue.ofText (s : String) : Except Error Catalogue :=
  match Json.decode (.list Declaration.decoder) s with
  | .error f => .error (.document f)
  | .ok ds => (ofDeclarations ds).mapError .registration

end Criteria
