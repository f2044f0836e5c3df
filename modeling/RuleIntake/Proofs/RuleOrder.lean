import Mathlib
import RuleIntake.Proofs.Completion
import RuleIntake.Proofs.Utf8Order

/-!
# Rate limit rules in order

Completing rate limit rules loses none of them and changes only what is missing. They come into the
order of their priorities and then of the bytes of their identifiers, and rules that are equal in
both stay in the order in which they were delivered.
-/

namespace RuleIntake

namespace RateLimitRule

/-! ### Filling in -/

/-- A field is filled in if it is missing, and stays as it is otherwise. -/
inductive Fills {α : Type} (default : α) : Option α → Option α → Prop
  | missing : Fills default none (some default)
  | present (a : α) : Fills default (some a) (some a)

/-- A rule is another one with its missing fields filled in. -/
structure Completes (rule given : RateLimitRule) : Prop where
  priority : Fills 0 given.priority rule.priority
  resource : Fills .qps given.resource rule.resource
  limitType : Fills .global given.limitType rule.limitType
  action : Fills "reject" given.action rule.action
  disable : Fills false given.disable rule.disable
  rest : rule = { given with
    priority := rule.priority
    resource := rule.resource
    limitType := rule.limitType
    action := rule.action
    disable := rule.disable }

lemma fills_getD {α : Type} (default : α) (a : Option α) :
    Fills default a (some (a.getD default)) := by
  cases a with
  | none => exact .missing
  | some a => exact .present a

lemma completes_withDefaults (r : RateLimitRule) : r.withDefaults.Completes r where
  priority := fills_getD _ _
  resource := fills_getD _ _
  limitType := fills_getD _ _
  action := fills_getD _ _
  disable := fills_getD _ _
  rest := rfl

/-! ### Ranks -/

/-- A rule ranks no lower than another one: its priority, which counts as 0 if it is missing, is the
lesser one, or it is the same and the bytes of its identifier come no later. -/
def RankLE (a b : RateLimitRule) : Prop :=
  a.priority.getD 0 < b.priority.getD 0 ∨
    a.priority.getD 0 = b.priority.getD 0 ∧ Utf8.encode a.id ≤ Utf8.encode b.id

lemma comesBefore_iff_rankLE {a b : RateLimitRule} :
    a.comesBefore b = true ↔ a.RankLE b := by
  rw [comesBefore_iff, RankLE, Utf8.encode_le_encode]

/-- One rule stands before another one in delivered rules that are counted and sorted: it ranks no
lower, and if the other one ranks no lower either, it was delivered earlier. -/
def StandsBefore (a b : RateLimitRule × Nat) : Prop :=
  a.1.RankLE b.1 ∧ (b.1.RankLE a.1 → a.2 < b.2)

lemma comesBefore_withDefaults (a b : RateLimitRule) :
    a.withDefaults.comesBefore b.withDefaults = a.comesBefore b := rfl

/-- The rules as they were delivered, counted from zero, in the order in which they are tried. -/
def inOrder (rules : List RateLimitRule) : List (RateLimitRule × Nat) :=
  rules.zipIdx.mergeSort (List.zipIdxLE comesBefore)

lemma inOrder_perm (rules : List RateLimitRule) : (inOrder rules).Perm rules.zipIdx :=
  List.mergeSort_perm _ _

lemma nodup_map_snd_inOrder (rules : List RateLimitRule) :
    ((inOrder rules).map (·.2)).Nodup := by
  have hindices : (rules.zipIdx.map (·.2)).Nodup := by
    rw [List.zipIdx_map_snd]
    exact List.nodup_range'
  exact ((inOrder_perm rules).map _).nodup_iff.mpr hindices

lemma pairwise_standsBefore_inOrder (rules : List RateLimitRule) :
    (inOrder rules).Pairwise StandsBefore := by
  have hsorted : (inOrder rules).Pairwise (List.zipIdxLE comesBefore · ·) :=
    List.pairwise_mergeSort (List.zipIdxLE_trans comesBefore_trans)
      (List.zipIdxLE_total comesBefore_total) _
  have hdiffer : (inOrder rules).Pairwise (·.2 ≠ ·.2) :=
    List.pairwise_map.mp (nodup_map_snd_inOrder rules)
  refine (hsorted.and hdiffer).imp ?_
  rintro a b ⟨hle, hne⟩
  rw [List.zipIdxLE] at hle
  rw [StandsBefore, ← comesBefore_iff_rankLE, ← comesBefore_iff_rankLE]
  split_ifs at hle with hab hba
  · exact ⟨hab, fun _ => Nat.lt_of_le_of_ne (of_decide_eq_true hle) hne⟩
  · exact ⟨hab, fun h => absurd h hba⟩

/-- Sorting the completed rules is completing the sorted ones. -/
lemma mergeSort_map_withDefaults (rules : List RateLimitRule) :
    (rules.map withDefaults).mergeSort comesBefore =
      (inOrder rules).map fun given => given.1.withDefaults := by
  rw [← List.map_mergeSort fun a _ b _ => (comesBefore_withDefaults a b).symm,
    ← List.mergeSort_zipIdx, List.map_map]
  rfl

end RateLimitRule

open RateLimitRule

/-- Completing rate limit rules keeps their revision and each of the rules, in which it fills in
what is missing and changes nothing else. The rules come into the order of their ranks, those of one
rank in the order in which they were delivered. A second time nothing changes. -/
theorem RateLimit.withDefaults_orders (r : RateLimit) :
    ∃ completed, Payload.withDefaults .rateLimiting (.rateLimiting r) = .rateLimiting completed ∧
      completed.revision = r.revision ∧
      (∃ order : List (RateLimitRule × Nat), order.Perm r.rules.zipIdx ∧
        List.Forall₂ (fun rule given => rule.Completes given.1) completed.rules order ∧
        order.Pairwise StandsBefore) ∧
      completed.rules.Pairwise RankLE ∧
      Payload.withDefaults .rateLimiting (.rateLimiting completed) = .rateLimiting completed := by
  have hrules : r.withDefaults.rules = (inOrder r.rules).map fun given => given.1.withDefaults :=
    mergeSort_map_withDefaults r.rules
  refine ⟨r.withDefaults, rfl, rfl,
    ⟨inOrder r.rules, inOrder_perm r.rules, ?_, pairwise_standsBefore_inOrder r.rules⟩, ?_, ?_⟩
  · rw [hrules, List.forall₂_map_left_iff, List.forall₂_same]
    intro given _
    exact given.1.completes_withDefaults
  · rw [hrules, List.pairwise_map]
    refine (pairwise_standsBefore_inOrder r.rules).imp ?_
    intro a b h
    exact h.1
  · exact congrArg Payload.rateLimiting r.withDefaults_withDefaults

/-- A missing priority is as good as 0: the two rules `a` stay in the order of their delivery. -/
example :
    let rule (id : String) (priority : Option UInt32) (service : String) : RateLimitRule :=
      { (default : RateLimitRule) with id := id, priority := priority, service := service }
    let given : RateLimit :=
      ⟨[rule "b" (some 0) "first", rule "a" (some 0) "second", rule "a" none "third"], none⟩
    given.withDefaults.rules.map (·.service) = ["second", "third", "first"] := by
  cbv

end RuleIntake
