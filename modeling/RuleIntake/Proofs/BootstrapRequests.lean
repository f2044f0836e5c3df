import Mathlib
import RuleIntake.Proofs.DocumentRuns
import RuleIntake.Proofs.SnapshotSeeding

/-!
# Documents that are asked for

Whatever a store answers, a document is made only from rules of the kind that was asked for, and it
has been validated and marked. Whose rules they are is what the store says: the document is for the
service that the loaded one is for.
-/

namespace RuleIntake

variable {load : SnapshotKey → Except RuleError (Option RawDocument)} {key : SnapshotKey}
  {raw : RawDocument} {config : Config}

/-! ### Answers of a store -/

lemma bootstrap_of_error {e : RuleError} (h : load key = .error e) :
    bootstrap load key config = .error e := by
  rw [bootstrap, h, bootstrapFrom]

lemma bootstrap_of_none (h : load key = .ok none) :
    bootstrap load key config = .ok (none, [.snapshotMissing key.1 key.2]) := by
  rw [bootstrap, h, bootstrapFrom]

lemma bootstrap_of_noRules (h : load key = .ok (some raw))
    (hkind : raw.documentType.ruleKind? = none) :
    bootstrap load key config = .error (.unknownRuleKind raw.documentType.name) := by
  rw [bootstrap, h, bootstrapFrom, DocumentType.ruleKind, hkind]

lemma bootstrap_of_otherKind {held : RuleKind} (h : load key = .ok (some raw))
    (hkind : raw.documentType.ruleKind? = some held) (hne : held ≠ key.2) :
    bootstrap load key config = .error (.snapshot (.wrongKind key.1 held key.2)) := by
  rw [bootstrap, h, bootstrapFrom, DocumentType.ruleKind_of_ruleKind? hkind]
  exact if_pos hne

/-- What a store answers decides what comes of it, one case for each answer. -/
lemma bootstrap_cases (load : SnapshotKey → Except RuleError (Option RawDocument))
    (key : SnapshotKey) (config : Config) :
    (∃ e, load key = .error e ∧ bootstrap load key config = .error e) ∨
      (load key = .ok none ∧
        bootstrap load key config = .ok (none, [.snapshotMissing key.1 key.2])) ∨
      (∃ raw e, load key = .ok (some raw) ∧ raw.documentType.ruleKind? ≠ some key.2 ∧
        bootstrap load key config = .error e) ∨
      ∃ raw told, load key = .ok (some raw) ∧ raw.documentType.ruleKind? = some key.2 ∧
        bootstrap load key config =
          .ok (some (RuleDocument.ofRaw raw key.2 config).1.validate.document.markFromSnapshot.2,
            told) := by
  rcases h : load key with e | _ | raw
  · exact .inl ⟨e, rfl, bootstrap_of_error h⟩
  · exact .inr (.inl ⟨rfl, bootstrap_of_none h⟩)
  right; right
  rcases hkind : raw.documentType.ruleKind? with _ | held
  · exact .inl ⟨raw, _, rfl, by simp [hkind], bootstrap_of_noRules h hkind⟩
  by_cases hheld : held = key.2
  · subst hheld
    obtain ⟨told, hmade, -⟩ := bootstrap_of_sameKind h hkind config
    exact .inr ⟨raw, told, rfl, hkind, hmade⟩
  · exact .inl ⟨raw, _, rfl, by simpa [hkind] using hheld, bootstrap_of_otherKind h hkind hheld⟩

/-! ### Documents that are made -/

/-- A document is made from rules of the kind that was asked for. -/
lemma exists_loaded_of_bootstrap {d : RuleDocument} {told : List Event}
    (h : bootstrap load key config = .ok (some d, told)) :
    ∃ raw, load key = .ok (some raw) ∧ raw.documentType.ruleKind? = some key.2 ∧
      d = (RuleDocument.ofRaw raw key.2 config).1.validate.document.markFromSnapshot.2 := by
  rcases bootstrap_cases load key config with ⟨e, -, hmade⟩ | ⟨-, hmade⟩ | ⟨raw, e, -, -, hmade⟩ |
    ⟨raw, made, hload, hkind, hmade⟩ <;> cases h.symm.trans hmade
  exact ⟨raw, hload, hkind, rfl⟩

/-- What can be made for a request is published unless somebody listens to what happens to its
patterns and previews are too long. -/
lemma comesTo_of_bootstrap {d : RuleDocument} {told : List Event}
    (h : bootstrap load key config = .ok (some d, told)) (level : LogLevel) :
    ComesTo (publishSnapshot level load key config) (some d) (config.CanTell level d) := by
  obtain ⟨raw, hload, hkind, rfl⟩ := exists_loaded_of_bootstrap h
  exact comesTo_publishSnapshot hload hkind config level

namespace RuleDocument

/-- A document that is made for a request is of the kind that was asked for and for the service of
the raw document, and it is validated and marked. -/
lemma validate_ofRaw_marked (raw : RawDocument) (kind : RuleKind) (config : Config) :
    let d := (ofRaw raw kind config).1.validate.document.markFromSnapshot.2
    d.kind = some kind ∧ d.service = raw.serviceKey ∧ (d.state = .valid ∨ d.state = .invalid) ∧
      d.fromSnapshot = true := by
  intro d
  have hkind : (ofRaw raw kind config).1.kind = some kind := rfl
  obtain ⟨hservice, hsame, -⟩ := (ofRaw raw kind config).1.validate_identity
  have hstate : d.state = (ofRaw raw kind config).1.validate.document.state := rfl
  refine ⟨hsame, hservice, ?_, rfl⟩
  rw [hstate]
  exact state_validate_cases hkind

end RuleDocument

/-- Errors of a store are passed on, and nothing comes of nothing. A document is made exactly from
rules of the kind that was asked for. It is valid or invalid, and no later mark is new, whatever is
called in between. It is for the service of the raw document, which nobody compares with the service
that was asked for. It is published as far as it can be told. -/
theorem bootstrap_requested (load : SnapshotKey → Except RuleError (Option RawDocument))
    (key : SnapshotKey) (config : Config) :
    (∀ e, load key = .error e → bootstrap load key config = .error e) ∧
    ((∃ told, bootstrap load key config = .ok (none, told)) ↔ load key = .ok none) ∧
    (∀ raw, load key = .ok (some raw) →
      ((∃ d told, bootstrap load key config = .ok (some d, told)) ↔
        raw.documentType.ruleKind? = some key.2) ∧
      (raw.documentType.ruleKind? = none →
        bootstrap load key config = .error (.unknownRuleKind raw.documentType.name)) ∧
      ∀ held, raw.documentType.ruleKind? = some held → held ≠ key.2 →
        bootstrap load key config = .error (.snapshot (.wrongKind key.1 held key.2))) ∧
    ∀ d told, bootstrap load key config = .ok (some d, told) →
      d.kind = some key.2 ∧ (d.state = .valid ∨ d.state = .invalid) ∧ d.fromSnapshot = true ∧
      (∀ calls, ∀ new ∈ DocumentCall.marks calls d, new = false) ∧
      (∃ raw, load key = .ok (some raw) ∧ (d.service = key.1 ↔ raw.serviceKey = key.1)) ∧
      ∀ level, ComesTo (publishSnapshot level load key config) (some d)
        (config.CanTell level d) := by
  have hcases := bootstrap_cases load key config
  refine ⟨fun e => bootstrap_of_error, ?_, ?_, ?_⟩
  · rcases hcases with ⟨e, hload, h⟩ | ⟨hload, h⟩ | ⟨raw, e, hload, -, h⟩ |
      ⟨raw, told, hload, -, h⟩ <;> simp [hload, h]
  · intro raw hraw
    refine ⟨?_, bootstrap_of_noRules hraw, fun held => bootstrap_of_otherKind hraw⟩
    rcases hcases with ⟨e, hload, -⟩ | ⟨hload, -⟩ | ⟨other, e, hload, hkind, h⟩ |
      ⟨other, told, hload, hkind, h⟩ <;> cases hraw.symm.trans hload
    · simp [hkind, h]
    · simp [hkind, h]
  · intro d told hd
    have hpublish := comesTo_of_bootstrap hd
    obtain ⟨raw, hload, -, rfl⟩ := exists_loaded_of_bootstrap hd
    obtain ⟨hkind, hservice, hstate, hmarked⟩ :=
      RuleDocument.validate_ofRaw_marked raw key.2 config
    refine ⟨hkind, hstate, hmarked, fun calls => DocumentCall.marks_of_marked calls hmarked,
      ⟨raw, hload, ?_⟩, hpublish⟩
    rw [hservice]

/-- A store that answers with the rules of another service gets a document for that service. -/
theorem bootstrap_otherService :
    ∃ load d told,
      bootstrap load (⟨"Production", "payment"⟩, .routing) .default = .ok (some d, told) ∧
        d.service = ⟨"Production", "order"⟩ ∧ d.state = .valid :=
  ⟨fun _ => .ok (some (.ofRules .routing ⟨"Production", "order"⟩ (.object []))), _, _, rfl, rfl,
    rfl⟩

end RuleIntake
