import Mathlib
import RuleIntake.Proofs.DocumentSteps
import RuleIntake.Proofs.InspectionSites

/-!
# Validation in any order

The entries of a map have names, and documents are validated with the entries in the order of their
names. Nothing that is said of validations depends on this: any order will do at each site, and the
order of names is one of them.
-/

namespace RuleIntake.RuleDocument

open Inspection

variable {d : RuleDocument} {kind : RuleKind} {order : EntryOrder} {p : Payload}

/-- What comes of the rules of a document: the rules completed, and their inspection, the entries of
each map in some order. -/
def inspectIn (order : EntryOrder) (d : RuleDocument) (kind : RuleKind) :
    Except RuleError (Option Payload) × Inspection :=
  match d.content with
  | .error e => (.error e, ⟨d.cache, [], .error e⟩)
  | .ok none => (.ok none, .clean d.cache)
  | .ok (some payload) =>
    let completed := payload.withDefaults kind
    (.ok (some completed), .payloadIn order kind completed d.cache)

/-- Completes and inspects the rules, the entries of each map in some order. -/
def validateIn (order : EntryOrder) (d : RuleDocument) : Validation :=
  match d.kind with
  | none => ⟨d, [.validationSkipped], .ok ()⟩
  | some kind =>
    let (content, inspection) := d.inspectIn order kind
    let summary :=
      match inspection.outcome with
      | .ok _ => .validated d.service d.revision inspection.cache.size
      | .error e => .invalid d.service d.revision e
    ⟨{ d with
        content := content
        cache := inspection.cache
        verdict := some inspection.outcome },
      inspection.events ++ [summary], inspection.outcome⟩

lemma inspectIn_byName (d : RuleDocument) (kind : RuleKind) :
    d.inspectIn .byName kind = d.inspect kind := by
  rw [inspectIn, inspect]
  rcases d.content with e | _ | p
  · rfl
  · rfl
  · simp only [payloadIn_byName]

/-- Documents are validated with the entries in the order of their names. -/
theorem validateIn_byName (d : RuleDocument) : d.validateIn .byName = d.validate := by
  rw [validateIn, validate]
  cases d.kind with
  | none => rfl
  | some kind =>
    have hsame := d.inspectIn_byName kind
    dsimp only
    generalize d.inspectIn .byName kind = inspected at hsame ⊢
    subst hsame
    rfl

lemma inspectIn_of_error {e : RuleError} (h : d.content = .error e) :
    d.inspectIn order kind = (.error e, ⟨d.cache, [], .error e⟩) := by
  rw [inspectIn, h]

lemma inspectIn_of_none (h : d.content = .ok none) :
    d.inspectIn order kind = (.ok none, .clean d.cache) := by
  rw [inspectIn, h]

lemma inspectIn_of_some (h : d.content = .ok (some p)) :
    d.inspectIn order kind = (.ok (some (p.withDefaults kind)),
      .payloadIn order kind (p.withDefaults kind) d.cache) := by
  rw [inspectIn, h]

/-- Whatever the order, the rules are completed. -/
lemma inspectIn_content (order : EntryOrder) (d : RuleDocument) (kind : RuleKind) :
    (d.inspectIn order kind).1 = d.content.map (Option.map (Payload.withDefaults kind)) := by
  rw [inspectIn]
  rcases d.content with e | _ | p <;> rfl

lemma validateIn_of_none (h : d.kind = none) :
    d.validateIn order = ⟨d, [.validationSkipped], .ok ()⟩ := by
  rw [validateIn, h]

lemma validateIn_document (h : d.kind = some kind) : (d.validateIn order).document =
    { d with
      content := (d.inspectIn order kind).1
      cache := (d.inspectIn order kind).2.cache
      verdict := some (d.inspectIn order kind).2.outcome } := by
  rw [validateIn, h]

lemma validateIn_outcome (h : d.kind = some kind) :
    (d.validateIn order).outcome = (d.inspectIn order kind).2.outcome := by
  rw [validateIn, h]

lemma validateIn_events_of_ok (h : d.kind = some kind)
    (hok : (d.inspectIn order kind).2.outcome = .ok ()) :
    (d.validateIn order).events = (d.inspectIn order kind).2.events ++
      [.validated d.service d.revision (d.inspectIn order kind).2.cache.size] := by
  simp only [validateIn, h, hok]

lemma validateIn_events_of_error (h : d.kind = some kind) {fault : RuleError}
    (hfault : (d.inspectIn order kind).2.outcome = .error fault) :
    (d.validateIn order).events = (d.inspectIn order kind).2.events ++
      [.invalid d.service d.revision fault] := by
  simp only [validateIn, h, hfault]

end RuleIntake.RuleDocument
