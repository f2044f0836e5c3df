import RuleIntake.Json.TextError
import RuleIntake.MessagePack.Head
import RuleIntake.Pattern.Compiler
import RuleIntake.Rule.Kind
import RuleIntake.Rule.Service

/-!
# Errors

Everything that can go wrong on the way from a document to rules that can be used, by its cause.
-/

namespace RuleIntake

/-- Why a document is not in the form of its type. -/
inductive DocumentFault
  | text (e : Json.TextError)
  | value (m : Wire.Mismatch)
  /-- Rules of one kind were handed over as rules of the other. -/
  | foreignPayload (expected found : RuleKind)
  | other (text : String)
deriving DecidableEq

/-- The kind of rules, as it is written in sentences. -/
def RuleKind.phrase : RuleKind → String
  | .routing => "routing"
  | .rateLimiting => "rate limiting"

def DocumentFault.message : DocumentFault → String
  | text e => e.text
  | value m => m.text .json
  | foreignPayload expected found =>
    expected.phrase ++ " assistant received " ++ found.text ++ " payload"
  | other words => words

inductive EncodeFault
  | refused (text : String)
  | unknownLength
  | tooDeep
deriving DecidableEq

def EncodeFault.text : EncodeFault → String
  | refused text => text
  | unknownLength => "attempt to serialize struct, sequence or map with unknown length"
  | tooDeep => "depth limit exceeded"

inductive SnapshotFault
  | encoding (fault : EncodeFault)
  | decoding (e : MessagePack.DecodeError)
  | wrongKind (service : ServiceKey) (held expected : RuleKind)
  | other (text : String)
deriving DecidableEq

def SnapshotFault.message : SnapshotFault → String
  | encoding fault => "编码失败：" ++ fault.text
  | decoding e => "解码失败：" ++ e.text
  | wrongKind service held expected =>
    "snapshot for " ++ service.text ++ " holds " ++ held.text ++ " rules, expected " ++
      expected.text
  | other text => text

/-- Why a document gives no rules that can be used. -/
inductive RuleError
  | malformedDocument (fault : DocumentFault)
  /-- The name of a variable is missing. -/
  | malformedReference (field : String)
  | invalidPattern (pattern : String) (cause : Pattern.CompileError)
  | unknownRuleKind (name : String)
  | snapshot (fault : SnapshotFault)
deriving DecidableEq

namespace RuleError

def message : RuleError → String
  | malformedDocument fault => "规则文档格式错误：" ++ fault.message
  | malformedReference field => "变量引用无效：变量类型的匹配值不能为空（字段：" ++ field ++ "）"
  | invalidPattern pattern cause => "正则表达式无效：" ++ pattern ++ "，错误：" ++ cause.text
  | unknownRuleKind name => "未知规则类型：" ++ name
  | snapshot fault => "快照操作失败：" ++ fault.message

/-- The pattern at fault. -/
def pattern? : RuleError → Option String
  | invalidPattern pattern _ => some pattern
  | _ => none

end RuleError

/-- The kind of the rules in documents of a type, which has to be a type of rules. -/
def DocumentType.ruleKind (t : DocumentType) : Except RuleError RuleKind :=
  match t.ruleKind? with
  | some kind => .ok kind
  | none => .error (.unknownRuleKind t.name)

end RuleIntake
