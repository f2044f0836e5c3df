import RuleIntake.Pattern.Matching
import RuleIntake.Pattern.Meaning
import RuleIntake.Pattern.Nesting
import RuleIntake.Pattern.Parser
import RuleIntake.Pattern.Report
import RuleIntake.Pattern.Size

/-!
# Compiling patterns

A pattern is compiled under limits on its nesting and its size. Faults of its form come first, then
the limit on nesting, then faults of its meaning, and last the limit on size.
-/

namespace RuleIntake

structure Regex where
  source : String
  expr : Pattern.Expr

namespace Regex

def isMatch (r : Regex) (text : String) : Bool := r.expr.isMatch text

end Regex

namespace Pattern

structure Limits where
  size : Nat
  nesting : Nat
deriving DecidableEq, Repr

inductive CompileError
  | malformed (pattern : String) (fault : FaultAt)
  | tooBig (limit : Nat)
deriving DecidableEq, Repr

def CompileError.text : CompileError → String
  | malformed pattern fault => report pattern fault
  | tooBig limit => "Compiled regex exceeds size limit of " ++ toString limit ++ " bytes."

def checkNesting (limit : Nat) (ast : Ast) : Except FaultAt Unit :=
  match ast.tooDeep? limit 0 with
  | some span => .error ⟨.tooNested limit, span⟩
  | none => .ok ()

/-- The expression of a pattern under a limit on nesting. -/
def exprOf (nesting : Nat) (pattern : String) : Except FaultAt Expr := do
  let ast ← parse pattern
  checkNesting nesting ast
  let (e, _) ← meaning .initial ast
  return e

def compile (limits : Limits) (pattern : String) : Except CompileError Regex :=
  match exprOf limits.nesting pattern with
  | .error fault => .error (.malformed pattern fault)
  | .ok e =>
    if e.compiledBytes ≤ limits.size then .ok ⟨pattern, e⟩ else .error (.tooBig limits.size)

end Pattern

end RuleIntake
