import Mathlib.Tactic.Common
import RuleIntake.Rule.Document

/-!
# Building documents

How a document with rules comes about: its rules are read or not, and whatever came of them is
inspected at once. A document of a type that holds rules can always be built.
-/

namespace RuleIntake

lemma DocumentType.ruleKind_of_ruleKind? {t : DocumentType} {kind : RuleKind}
    (h : t.ruleKind? = some kind) : t.ruleKind = .ok kind := by
  rw [ruleKind, h]

/-- The rules of a document are missing, of the wrong form, or read. -/
lemma RawDocument.extract_cases (raw : RawDocument) (kind : RuleKind) :
    (raw.rules kind = none ∧ raw.extract kind = .ok none) ∨
      (∃ j m, raw.rules kind = some j ∧ Payload.decoder kind j = .error m ∧
        raw.extract kind = .error (.malformedDocument (.value m))) ∨
      ∃ j p, raw.rules kind = some j ∧ Payload.decoder kind j = .ok p ∧
        raw.extract kind = .ok (some p) := by
  unfold extract
  cases hrules : raw.rules kind with
  | none =>
    left
    exact ⟨rfl, rfl⟩
  | some j =>
    right
    cases hd : Payload.decoder kind j with
    | error m =>
      left
      exact ⟨j, m, rfl, hd, by simp only [hd]⟩
    | ok p =>
      right
      exact ⟨j, p, rfl, hd, by simp only [hd]⟩

lemma RawDocument.extract_error {raw : RawDocument} {kind : RuleKind} {e : RuleError}
    (h : raw.extract kind = .error e) : ∃ m, e = .malformedDocument (.value m) := by
  rcases raw.extract_cases kind with ⟨-, h'⟩ | ⟨j, m, -, -, h'⟩ | ⟨j, p, -, -, h'⟩ <;>
    rw [h'] at h <;> cases h
  exact ⟨m, rfl⟩

namespace RuleDocument

variable {d : RuleDocument} {kind : RuleKind}

lemma inspect_of_error {e : RuleError} (h : d.content = .error e) :
    d.inspect kind = (.error e, ⟨d.cache, [], .error e⟩) := by
  rw [inspect, h]

lemma inspect_of_none (h : d.content = .ok none) :
    d.inspect kind = (.ok none, .clean d.cache) := by
  rw [inspect, h]

lemma inspect_of_some {p : Payload} (h : d.content = .ok (some p)) :
    d.inspect kind = (.ok (some (p.withDefaults kind)),
      .payload kind (p.withDefaults kind) d.cache) := by
  rw [inspect, h]

lemma validate_of_none (h : d.kind = none) :
    d.validate = ⟨d, [.validationSkipped], .ok ()⟩ := by
  rw [validate, h]

lemma validate_document (h : d.kind = some kind) : d.validate.document =
    { d with
      content := (d.inspect kind).1
      cache := (d.inspect kind).2.cache
      verdict := some (d.inspect kind).2.outcome } := by
  rw [validate, h]

lemma validate_outcome (h : d.kind = some kind) :
    d.validate.outcome = (d.inspect kind).2.outcome := by
  rw [validate, h]

/-- What is told of a validation: the inspection, and a summary that can always be told. -/
lemma validate_events (h : d.kind = some kind) :
    ∃ summary, summary.isTellable ∧ d.validate.events = (d.inspect kind).2.events ++ [summary] := by
  rw [validate, h]
  refine ⟨_, ?_, rfl⟩
  cases (d.inspect kind).2.outcome <;> rfl

lemma state_validate (h : d.kind = some kind) : d.validate.document.state =
    if (d.inspect kind).2.outcome = .ok () then .valid else .invalid := by
  rw [validate_document h, state, h]
  cases (d.inspect kind).2.outcome <;> simp

lemma state_validate_eq_valid (h : d.kind = some kind) :
    d.validate.document.state = .valid ↔ (d.inspect kind).2.outcome = .ok () := by
  rw [state_validate h]
  split_ifs with hok <;> simp [hok]

lemma state_validate_cases (h : d.kind = some kind) :
    d.validate.document.state = .valid ∨ d.validate.document.state = .invalid := by
  rw [state_validate h]
  split_ifs
  · exact .inl rfl
  · exact .inr rfl

lemma isUsable_validate (h : d.kind = some kind) :
    d.validate.document.isUsable = true ↔ d.validate.outcome = .ok () := by
  rw [isUsable, beq_iff_eq, state_validate_eq_valid h, validate_outcome h]

lemma validate_fromSnapshot (d : RuleDocument) :
    d.validate.document.fromSnapshot = d.fromSnapshot := by
  unfold validate
  cases d.kind <;> rfl

lemma ofRaw_events_tellable (raw : RawDocument) (kind : RuleKind) (config : Config) :
    ∀ e ∈ (ofRaw raw kind config).2, e.isTellable := by
  simp only [ofRaw]
  cases raw.extract kind <;> simp [Event.isTellable]

lemma construct_of_ruleKind? {raw : RawDocument} (hkind : raw.documentType.ruleKind? = some kind)
    (config : Config) : construct (some raw) config = .ok (ofRaw raw kind config) := by
  rw [construct, DocumentType.ruleKind_of_ruleKind? hkind]

/-- A document of a type that holds rules can always be built, and is the validated one. It can be
told exactly if its validation can be. -/
lemma build_isTellable_iff {raw : RawDocument} (hkind : raw.documentType.ruleKind? = some kind)
    (config : Config) :
    ∃ events, build (some raw) config =
        .ok ((ofRaw raw kind config).1.validate.document, events) ∧
      ((∀ e ∈ events, e.isTellable) ↔
        ∀ e ∈ (ofRaw raw kind config).1.validate.events, e.isTellable) := by
  have hconstruct := construct_of_ruleKind? hkind config
  have hbefore := ofRaw_events_tellable raw kind config
  generalize ofRaw raw kind config = made at hconstruct hbefore ⊢
  obtain ⟨d, before⟩ := made
  rw [build, hconstruct]
  refine ⟨_, rfl, ?_⟩
  rw [List.forall_mem_append, List.forall_mem_append, and_iff_right hbefore]
  apply and_iff_left
  cases d.validate.outcome <;> simp [Event.isTellable]

end RuleDocument

end RuleIntake
