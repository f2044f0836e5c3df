import RuleIntake.Pattern.Syntax

/-!
# Nesting

Parts inside parts cost depth when patterns are compiled, so that patterns nested deeper than a
limit are refused. Groups, repetitions, sequences, choices, and classes with what is joined in them
count as one level each; what has no parts counts nothing.
-/

namespace RuleIntake.Pattern

mutual

/-- The first part of a class below which the limit is passed, where it is inside the given number
of levels. -/
def ClassSet.tooDeep? (limit depth : Nat) : ClassSet → Option Span
  | .item i => i.tooDeep? limit depth
  | .operation span _ lhs rhs =>
    if limit ≤ depth then some span
    else (lhs.tooDeep? limit (depth + 1)).or (rhs.tooDeep? limit (depth + 1))

def ClassItem.tooDeep? (limit depth : Nat) : ClassItem → Option Span
  | .bracketed span _ set => if limit ≤ depth then some span else set.tooDeep? limit (depth + 1)
  | .union span items => if limit ≤ depth then some span else itemsTooDeep? limit (depth + 1) items
  | .empty _ => none
  | .literal _ => none
  | .range _ _ _ => none
  | .ascii _ _ _ => none
  | .unicode _ _ _ => none
  | .letter _ _ _ => none

def itemsTooDeep? (limit depth : Nat) : List ClassItem → Option Span
  | [] => none
  | item :: rest => (item.tooDeep? limit depth).or (itemsTooDeep? limit depth rest)

end

mutual

/-- The first part of a pattern with which the limit is passed, where the pattern is inside the
given number of levels. -/
def Ast.tooDeep? (limit depth : Nat) : Ast → Option Span
  | .bracketed span _ set => if limit ≤ depth then some span else set.tooDeep? limit (depth + 1)
  | .repetition span _ _ body =>
    if limit ≤ depth then some span else body.tooDeep? limit (depth + 1)
  | .group span _ _ body => if limit ≤ depth then some span else body.tooDeep? limit (depth + 1)
  | .alternation span branches =>
    if limit ≤ depth then some span else partsTooDeep? limit (depth + 1) branches
  | .concat span parts =>
    if limit ≤ depth then some span else partsTooDeep? limit (depth + 1) parts
  | .empty _ => none
  | .flags _ _ => none
  | .literal _ => none
  | .dot _ => none
  | .assertion _ _ => none
  | .unicode _ _ _ => none
  | .letter _ _ _ => none

def partsTooDeep? (limit depth : Nat) : List Ast → Option Span
  | [] => none
  | part :: rest => (part.tooDeep? limit depth).or (partsTooDeep? limit depth rest)

end

end RuleIntake.Pattern
