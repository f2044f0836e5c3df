import Mathlib
import RuleIntake.Proofs.Completion

/-!
# Validating a document

What one validation does to a document: it completes the rules and looks at their entries, and
refuses rules that could not be read. What the document says about itself stays and fits its rules,
so that they are never taken for rules of the other kind.
-/

namespace RuleIntake

namespace RuleDocument

variable {d : RuleDocument} {kind : RuleKind}

lemma state_eq_uninitialized : d.state = .uninitialized ↔ d.kind = none := by
  rw [state]
  rcases d.kind with _ | kind
  · simp
  · rcases d.verdict with _ | e | ⟨⟩ <;> simp

/-- An inspection completes the rules if there are any, and leaves the reason why there are not. -/
lemma inspect_content (d : RuleDocument) (kind : RuleKind) :
    (d.inspect kind).1 = d.content.map (Option.map (Payload.withDefaults kind)) := by
  rw [inspect]
  rcases d.content with e | _ | p <;> rfl

lemma payload_of_content {rules : Option Payload} (h : d.content = .ok rules) :
    d.payload = rules := by
  rw [payload, h]

lemma payload_of_error {e : RuleError} (h : d.content = .error e) : d.payload = none := by
  rw [payload, h]

/-- A validation leaves what the document says about itself. -/
lemma validate_identity (d : RuleDocument) :
    d.validate.document.service = d.service ∧ d.validate.document.kind = d.kind ∧
      d.validate.document.revision = d.revision := by
  cases h : d.kind with
  | none => simp [validate_of_none h, h]
  | some kind => simp [validate_document h, h]

lemma validate_payload (h : d.kind = some kind) :
    d.validate.document.payload = d.payload.map (Payload.withDefaults kind) := by
  rw [validate_document h, payload, payload]
  dsimp only
  rw [inspect_content]
  rcases d.content with e | _ | p <;> rfl

/-- What a document says about itself fits its rules. -/
structure IsCoherent (d : RuleDocument) : Prop where
  verdict : d.kind = none → d.verdict = none
  kind : ∀ p, d.payload = some p → d.kind = some p.kind
  revision : d.revision = Payload.revisionOf d.payload
  unreadable : ∀ e, d.content = .error e → ∃ m, e = .malformedDocument (.value m)

namespace IsCoherent

lemma uninitialized : uninitialized.IsCoherent where
  verdict := fun _ => rfl
  kind := by rintro p ⟨⟩
  revision := rfl
  unreadable := by rintro e ⟨⟩

lemma ofRaw (raw : RawDocument) (kind : RuleKind) (config : Config) :
    (ofRaw raw kind config).1.IsCoherent := by
  have hcontent : (RuleDocument.ofRaw raw kind config).1.content = raw.extract kind := rfl
  have hkind : (RuleDocument.ofRaw raw kind config).1.kind = some kind := rfl
  have hrevision : (RuleDocument.ofRaw raw kind config).1.revision =
      Payload.revisionOf (RuleDocument.ofRaw raw kind config).1.payload := by
    simp only [RuleDocument.ofRaw, payload]
    cases raw.extract kind <;> rfl
  refine ⟨by simp [hkind], ?_, hrevision, ?_⟩
  · intro p hp
    rcases raw.extract_cases kind with ⟨-, h⟩ | ⟨j, m, -, -, h⟩ | ⟨j, given, -, hd, h⟩
    · rw [payload_of_content (hcontent.trans h)] at hp
      cases hp
    · rw [payload_of_error (hcontent.trans h)] at hp
      cases hp
    · rw [payload_of_content (hcontent.trans h)] at hp
      cases hp
      rw [hkind, Payload.kind_of_decoder hd]
  · intro e he
    rw [hcontent] at he
    exact RawDocument.extract_error he

lemma validate (h : d.IsCoherent) : d.validate.document.IsCoherent := by
  cases hkind : d.kind with
  | none =>
    rw [validate_of_none hkind]
    exact h
  | some kind =>
    have hpayload := validate_payload hkind
    obtain ⟨-, hsame, hrevision⟩ := d.validate_identity
    refine ⟨?_, ?_, ?_, ?_⟩
    · rw [hsame, hkind]
      rintro ⟨⟩
    · intro p hp
      rw [hpayload, Option.map_eq_some_iff] at hp
      obtain ⟨given, hgiven, rfl⟩ := hp
      rw [hsame, Payload.kind_withDefaults]
      exact h.kind given hgiven
    · rw [hrevision, hpayload, h.revision]
      cases d.payload with
      | none => rfl
      | some p => exact congrArg (·.getD "") (p.revision_withDefaults kind).symm
    · rw [validate_document hkind]
      dsimp only
      rw [inspect_content]
      intro e he
      apply h.unreadable
      rcases hcontent : d.content with fault | rules <;> rw [hcontent] at he <;> cases he
      rfl

/-- Rules are never taken for rules of the other kind. -/
lemma outcome_ne_foreignPayload (h : d.IsCoherent) (expected found : RuleKind) :
    d.validate.outcome ≠ .error (.malformedDocument (.foreignPayload expected found)) := by
  cases hkind : d.kind with
  | none =>
    rw [validate_of_none hkind]
    rintro ⟨⟩
  | some kind =>
    rw [validate_outcome hkind]
    rcases hcontent : d.content with e | _ | p
    · obtain ⟨m, rfl⟩ := h.unreadable e hcontent
      rw [inspect_of_error hcontent]
      rintro ⟨⟩
    · rw [inspect_of_none hcontent]
      rintro ⟨⟩
    · have hp : p.kind = kind := by
        have hsome := h.kind p (payload_of_content hcontent)
        exact Option.some.inj (hsome.symm.trans hkind)
      rw [inspect_of_some hcontent, (inspect_walk hp d.cache).2]
      intro hfault
      rcases Inspection.entries_fault hfault with ⟨field, hf⟩ | ⟨q, cause, hf⟩ <;> cases hf

end IsCoherent

/-- Rules that cannot be read are refused for the same reason each time, and nothing is compiled. -/
lemma validate_of_error {e : RuleError} (hkind : d.kind = some kind) (h : d.content = .error e) :
    d.validate.outcome = .error e ∧ d.validate.document.content = .error e ∧
      d.validate.document.cache = d.cache := by
  rw [validate_outcome hkind, validate_document hkind, inspect_of_error h]
  exact ⟨rfl, rfl, rfl⟩

/-- What can be made is the document of no delivery, or that of rules of a kind. -/
lemma construct_cases {raw : Option RawDocument} {config : Config} {told : List Event}
    (h : construct raw config = .ok (d, told)) :
    (raw = none ∧ d = .uninitialized) ∨
      ∃ document kind, raw = some document ∧ document.documentType.ruleKind? = some kind ∧
        d = (ofRaw document kind config).1 := by
  cases raw with
  | none =>
    cases h
    exact .inl ⟨rfl, rfl⟩
  | some document =>
    right
    rw [construct, DocumentType.ruleKind] at h
    cases hkind : document.documentType.ruleKind? with
    | none =>
      rw [hkind] at h
      cases h
    | some kind =>
      rw [hkind] at h
      have hd : ofRaw document kind config = (d, told) := Except.ok.inj h
      exact ⟨document, kind, rfl, hkind, by rw [hd]⟩

end RuleDocument

end RuleIntake
