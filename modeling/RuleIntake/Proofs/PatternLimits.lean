import Mathlib.Tactic.Common
import RuleIntake.Rule.Config

/-!
# Wider limits on patterns

Limits only refuse. A pattern that is not nested too deep for a limit is not nested too deep for a
wider one, and what a pattern means and how much it takes does not depend on limits. So a pattern
that compiles within limits compiles to the same within wider ones.
-/

namespace RuleIntake.Pattern

variable {limit wider depth : Nat}

/-! ### Nesting -/

lemma if_limit_eq_none {span : Span} {inner : Option Span} :
    (if limit ≤ depth then some span else inner) = none ↔ depth < limit ∧ inner = none := by
  by_cases h : limit ≤ depth
  · rw [if_pos h]
    simp [Nat.not_lt.mpr h]
  · rw [if_neg h]
    simp [Nat.not_le.mp h]

mutual

lemma ClassSet.tooDeep?_wider (h : limit ≤ wider) (depth : Nat) (set : ClassSet)
    (hset : set.tooDeep? limit depth = none) : set.tooDeep? wider depth = none := by
  cases set with
  | item i =>
    rw [ClassSet.tooDeep?] at hset ⊢
    exact i.tooDeep?_wider h depth hset
  | operation span op lhs rhs =>
    rw [ClassSet.tooDeep?, if_limit_eq_none, Option.or_eq_none_iff] at hset ⊢
    exact ⟨Nat.lt_of_lt_of_le hset.1 h, lhs.tooDeep?_wider h (depth + 1) hset.2.1,
      rhs.tooDeep?_wider h (depth + 1) hset.2.2⟩

lemma ClassItem.tooDeep?_wider (h : limit ≤ wider) (depth : Nat) (item : ClassItem)
    (hitem : item.tooDeep? limit depth = none) : item.tooDeep? wider depth = none := by
  cases item with
  | bracketed span negated set =>
    rw [ClassItem.tooDeep?, if_limit_eq_none] at hitem ⊢
    exact ⟨Nat.lt_of_lt_of_le hitem.1 h, set.tooDeep?_wider h (depth + 1) hitem.2⟩
  | union span items =>
    rw [ClassItem.tooDeep?, if_limit_eq_none] at hitem ⊢
    exact ⟨Nat.lt_of_lt_of_le hitem.1 h, itemsTooDeep?_wider h (depth + 1) items hitem.2⟩
  | _ => rfl

lemma itemsTooDeep?_wider (h : limit ≤ wider) (depth : Nat) (items : List ClassItem)
    (hitems : itemsTooDeep? limit depth items = none) :
    itemsTooDeep? wider depth items = none := by
  cases items with
  | nil => rfl
  | cons item rest =>
    rw [itemsTooDeep?, Option.or_eq_none_iff] at hitems ⊢
    exact ⟨item.tooDeep?_wider h depth hitems.1, itemsTooDeep?_wider h depth rest hitems.2⟩

end

mutual

lemma Ast.tooDeep?_wider (h : limit ≤ wider) (depth : Nat) (ast : Ast)
    (hast : ast.tooDeep? limit depth = none) : ast.tooDeep? wider depth = none := by
  cases ast with
  | bracketed span negated set =>
    rw [Ast.tooDeep?, if_limit_eq_none] at hast ⊢
    exact ⟨Nat.lt_of_lt_of_le hast.1 h, set.tooDeep?_wider h (depth + 1) hast.2⟩
  | repetition span range sparing body =>
    rw [Ast.tooDeep?, if_limit_eq_none] at hast ⊢
    exact ⟨Nat.lt_of_lt_of_le hast.1 h, body.tooDeep?_wider h (depth + 1) hast.2⟩
  | group span capturing settings body =>
    rw [Ast.tooDeep?, if_limit_eq_none] at hast ⊢
    exact ⟨Nat.lt_of_lt_of_le hast.1 h, body.tooDeep?_wider h (depth + 1) hast.2⟩
  | alternation span branches =>
    rw [Ast.tooDeep?, if_limit_eq_none] at hast ⊢
    exact ⟨Nat.lt_of_lt_of_le hast.1 h, partsTooDeep?_wider h (depth + 1) branches hast.2⟩
  | concat span parts =>
    rw [Ast.tooDeep?, if_limit_eq_none] at hast ⊢
    exact ⟨Nat.lt_of_lt_of_le hast.1 h, partsTooDeep?_wider h (depth + 1) parts hast.2⟩
  | _ => rfl

lemma partsTooDeep?_wider (h : limit ≤ wider) (depth : Nat) (parts : List Ast)
    (hparts : partsTooDeep? limit depth parts = none) :
    partsTooDeep? wider depth parts = none := by
  cases parts with
  | nil => rfl
  | cons part rest =>
    rw [partsTooDeep?, Option.or_eq_none_iff] at hparts ⊢
    exact ⟨part.tooDeep?_wider h depth hparts.1, partsTooDeep?_wider h depth rest hparts.2⟩

end

lemma checkNesting_eq_ok {ast : Ast} :
    checkNesting limit ast = .ok () ↔ ast.tooDeep? limit 0 = none := by
  rw [checkNesting]
  cases ast.tooDeep? limit 0 <;> simp

/-! ### Compiling -/

/-- What a pattern means does not depend on the limit on nesting. -/
lemma exprOf_wider (h : limit ≤ wider) {p : String} {e : Expr} (he : exprOf limit p = .ok e) :
    exprOf wider p = .ok e := by
  simp only [exprOf, bind, Except.bind] at he ⊢
  cases hparse : parse p with
  | error fault =>
    rw [hparse] at he
    cases he
  | ok ast =>
    rw [hparse] at he
    dsimp only at he ⊢
    cases hnesting : checkNesting limit ast with
    | error fault =>
      rw [hnesting] at he
      cases he
    | ok _ =>
      have hwider := ast.tooDeep?_wider h 0 (checkNesting_eq_ok.mp hnesting)
      rw [hnesting] at he
      rw [checkNesting_eq_ok.mpr hwider]
      exact he

/-- What compiles within limits compiles to the same within wider ones. -/
theorem compile_wider {limits wider : Limits} (hsize : limits.size ≤ wider.size)
    (hnesting : limits.nesting ≤ wider.nesting) {p : String} {regex : Regex}
    (h : compile limits p = .ok regex) : compile wider p = .ok regex := by
  rw [compile] at h ⊢
  cases he : exprOf limits.nesting p with
  | error fault =>
    rw [he] at h
    cases h
  | ok e =>
    rw [he] at h
    rw [exprOf_wider hnesting he]
    dsimp only at h ⊢
    split_ifs at h with hfits
    rw [if_pos (Nat.le_trans hfits hsize)]
    exact h

end RuleIntake.Pattern
