import Mathlib
import RuleIntake.Proofs.DocumentSoundness

/-!
# Completed rules

Completing rules changes nothing the second time: what was missing is there, and the rules of a rate
limit are in order already. Their kind and their revision stay as they are.
-/

namespace RuleIntake

/-! ### The order of rate limit rules -/

namespace RateLimitRule

lemma comesBefore_iff {a b : RateLimitRule} : a.comesBefore b = true ↔
    a.priority.getD 0 < b.priority.getD 0 ∨
      a.priority.getD 0 = b.priority.getD 0 ∧ a.id ≤ b.id := by
  simp [comesBefore]

lemma comesBefore_trans (a b c : RateLimitRule) (hab : a.comesBefore b = true)
    (hbc : b.comesBefore c = true) : a.comesBefore c = true := by
  rw [comesBefore_iff] at hab hbc ⊢
  rcases hab with hab | ⟨hab, hidab⟩
  · rcases hbc with hbc | ⟨hbc, -⟩
    · exact .inl (UInt32.lt_trans hab hbc)
    · exact .inl (hbc ▸ hab)
  · rcases hbc with hbc | ⟨hbc, hidbc⟩
    · exact .inl (hab ▸ hbc)
    · exact .inr ⟨hab.trans hbc, String.le_trans hidab hidbc⟩

lemma comesBefore_total (a b : RateLimitRule) :
    (a.comesBefore b || b.comesBefore a) = true := by
  rw [Bool.or_eq_true, comesBefore_iff, comesBefore_iff]
  rcases Std.lt_trichotomy (a.priority.getD 0) (b.priority.getD 0) with hlt | heq | hgt
  · exact .inl (.inl hlt)
  · rcases String.le_total a.id b.id with hid | hid
    · exact .inl (.inr ⟨heq, hid⟩)
    · exact .inr (.inr ⟨heq.symm, hid⟩)
  · exact .inr (.inl hgt)

lemma withDefaults_withDefaults (r : RateLimitRule) :
    r.withDefaults.withDefaults = r.withDefaults := rfl

end RateLimitRule

/-! ### Completing twice -/

lemma Route.withDefaults_withDefaults (r : Route) :
    r.withDefaults.withDefaults = r.withDefaults := by
  simp only [withDefaults, List.map_map]
  rfl

lemma Routing.withDefaults_withDefaults (r : Routing) :
    r.withDefaults.withDefaults = r.withDefaults := by
  have hroutes (rs : List Route) :
      (rs.map Route.withDefaults).map Route.withDefaults = rs.map Route.withDefaults := by
    rw [List.map_map]
    apply List.map_congr_left
    intro route _
    exact route.withDefaults_withDefaults
  simp only [withDefaults, hroutes]

lemma RateLimit.withDefaults_withDefaults (r : RateLimit) :
    r.withDefaults.withDefaults = r.withDefaults := by
  have hcomplete : r.withDefaults.rules.map RateLimitRule.withDefaults = r.withDefaults.rules := by
    rw [List.map_congr_left (g := id), List.map_id]
    intro rule hrule
    rw [withDefaults, List.mem_mergeSort] at hrule
    obtain ⟨given, -, rfl⟩ := List.mem_map.mp hrule
    exact given.withDefaults_withDefaults
  have hsorted : r.withDefaults.rules.Pairwise (RateLimitRule.comesBefore · ·) :=
    List.pairwise_mergeSort RateLimitRule.comesBefore_trans RateLimitRule.comesBefore_total _
  rw [withDefaults, hcomplete, List.mergeSort_of_pairwise hsorted]

namespace Payload

variable {kind : RuleKind} {p : Payload}

lemma withDefaults_withDefaults (kind : RuleKind) (p : Payload) :
    (p.withDefaults kind).withDefaults kind = p.withDefaults kind := by
  match kind, p with
  | .routing, .routing r => exact congrArg routing r.withDefaults_withDefaults
  | .rateLimiting, .rateLimiting r => exact congrArg rateLimiting r.withDefaults_withDefaults
  | .routing, .rateLimiting r => rfl
  | .rateLimiting, .routing r => rfl

lemma revision_withDefaults (kind : RuleKind) (p : Payload) :
    (p.withDefaults kind).revision = p.revision := by
  cases kind <;> cases p <;> rfl

end Payload

end RuleIntake
