import RuleIntake.Pattern.Compiler

/-!
# Configuration

Limits on the patterns of rules, and how much of a pattern is shown in events.
-/

namespace RuleIntake

structure Config where
  regexSizeLimit : Nat
  /-- A limit on memory while matching, which changes no answer. -/
  dfaSizeLimit : Nat
  nestLimit : Nat
  logPreviewLength : Nat
deriving DecidableEq, Repr

namespace Config

def default : Config := ⟨0x100000, 0x200000, 64, 120⟩

instance : Inhabited Config := ⟨default⟩

def limits (c : Config) : Pattern.Limits := ⟨c.regexSizeLimit, c.nestLimit⟩

def compile (c : Config) : String → Except Pattern.CompileError Regex := Pattern.compile c.limits

end Config

end RuleIntake
