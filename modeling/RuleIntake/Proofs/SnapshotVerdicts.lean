import Mathlib
import RuleIntake.Proofs.DocumentSoundness
import RuleIntake.Proofs.SnapshotSeeding

/-!
# Verdicts behind a snapshot

Rules that are handed over for a service are judged behind a snapshot as they are judged without
one, also where they cannot be read. Null alone is judged otherwise: handed over it is refused for
its form, but a snapshot tells it as rules that are missing, and these are valid.
-/

namespace RuleIntake

namespace RawDocument

variable {kind : RuleKind} {key : ServiceKey} {rules : Json}

lemma ruleKind?_ofRules (kind : RuleKind) (key : ServiceKey) (rules : Json) :
    (ofRules kind key rules).documentType.ruleKind? = some kind := by
  cases kind <;> rfl

lemma serviceKey_ofRules (kind : RuleKind) (key : ServiceKey) (rules : Json) :
    (ofRules kind key rules).serviceKey = key := by
  cases kind <;> rfl

lemma rules_ofRules (kind : RuleKind) (key : ServiceKey) (rules : Json) :
    (ofRules kind key rules).rules kind = some rules := by
  cases kind <;> rfl

lemma rules_withoutNulls (raw : RawDocument) (kind : RuleKind) :
    raw.withoutNulls.rules kind = (raw.rules kind).bind Json.nonNull? := by
  cases kind <;> rfl

lemma withoutNulls_ofRules (h : rules ≠ .null) :
    (ofRules kind key rules).withoutNulls = ofRules kind key rules := by
  rw [withoutNulls_eq_self]
  cases kind <;> simp [ofRules, h]

/-! ### Documents that a snapshot can tell -/

lemma lengthsFit_ofRules (hnamespace : LengthFits key.namespaceName)
    (hservice : LengthFits key.service) (hrules : rules.LengthsFit) :
    (ofRules kind key rules).LengthsFit := by
  have hreference : ∀ r ∈ some key.reference, r.LengthsFit := by
    rintro r ⟨⟩
    constructor
    · rintro s ⟨⟩
      exact hnamespace
    · rintro s ⟨⟩
      exact hservice
  cases kind with
  | routing => exact ⟨hreference, by rintro j ⟨⟩; exact hrules, by rintro j ⟨⟩⟩
  | rateLimiting => exact ⟨hreference, by rintro j ⟨⟩, by rintro j ⟨⟩; exact hrules⟩

lemma isCanonical_ofRules (hrules : rules.IsCanonical) :
    (ofRules kind key rules).IsCanonical := by
  cases kind with
  | routing => exact ⟨by rintro j ⟨⟩; exact hrules, by rintro j ⟨⟩⟩
  | rateLimiting => exact ⟨by rintro j ⟨⟩, by rintro j ⟨⟩; exact hrules⟩

lemma depth_ofRules_le {n : Nat} (hn : 1 ≤ n) :
    (ofRules kind key rules).depth ≤ n + 1 ↔ rules.depth ≤ n := by
  rw [depth_le hn]
  cases kind with
  | routing => exact and_iff_left (Nat.zero_le n)
  | rateLimiting => exact and_iff_right (Nat.zero_le n)

/-- The object of the document is one level, and the rules in it have the others. -/
lemma ofSnapshot_ofRules (hnamespace : LengthFits key.namespaceName)
    (hservice : LengthFits key.service) (hc : rules.IsCanonical) (hl : rules.LengthsFit)
    (hdepth : rules.depth < MessagePack.depthLimit) :
    ofSnapshot (ofRules kind key rules).snapshot = .ok (ofRules kind key rules).withoutNulls := by
  have hlengths : (ofRules kind key rules).LengthsFit :=
    lengthsFit_ofRules hnamespace hservice hl
  have hlevels : (ofRules kind key rules).depth ≤ MessagePack.depthLimit := by
    apply (depth_ofRules_le (n := MessagePack.depthLimit - 1) (by decide)).mpr
    exact Nat.le_sub_one_of_lt hdepth
  have hread := ofSnapshot_encoded hlengths (isCanonical_ofRules hc) []
  rw [List.append_nil, if_pos hlevels] at hread
  exact hread

end RawDocument

namespace RuleDocument

variable {raw : RawDocument} {kind : RuleKind}

lemma state_validate_of_unreadable {j : Json} {m : Wire.Mismatch} (hrules : raw.rules kind = some j)
    (h : Payload.decoder kind j = .error m) (config : Config) :
    (ofRaw raw kind config).1.validate.document.state = .invalid := by
  have hkind : (ofRaw raw kind config).1.kind = some kind := rfl
  refine (state_validate_cases hkind).resolve_left ?_
  rw [state_validate_ofRaw, hrules]
  rintro (hnone | ⟨_, p, ⟨⟩, hp, -⟩)
  · cases hnone
  · cases h.symm.trans hp

end RuleDocument

/-- Null is of no form that rules can have. -/
lemma Payload.decoder_null (kind : RuleKind) : ∃ m, Payload.decoder kind .null = .error m := by
  cases kind <;> exact ⟨_, rfl⟩

/-- Null is refused as rules, and is missing in the document that a snapshot tells. -/
lemma RuleDocument.state_validate_null (kind : RuleKind) (key : ServiceKey) (config : Config) :
    let raw := RawDocument.ofRules kind key .null
    (ofRaw raw kind config).1.validate.document.state = .invalid ∧
      (ofRaw raw.withoutNulls kind config).1.validate.document.state = .valid := by
  intro raw
  have hrules : raw.rules kind = some .null := RawDocument.rules_ofRules kind key .null
  obtain ⟨m, hm⟩ := Payload.decoder_null kind
  refine ⟨state_validate_of_unreadable hrules hm config, ?_⟩
  apply (state_validate_ofRaw raw.withoutNulls kind config).mpr
  left
  rw [RawDocument.rules_withoutNulls, hrules]
  rfl

/-- Whatever is handed over as rules for a service can be saved in any store, and a document is made
from the snapshot. It says the same as the document that is made without the snapshot, so that rules
which cannot be read stay useless, unless null is handed over: this is refused without the snapshot
and valid behind it. Both documents are published as far as they can be told. -/
theorem bootstrap_save_ofRules (kind : RuleKind) (key : ServiceKey) (rules : Json)
    (hnamespace : LengthFits key.namespaceName) (hservice : LengthFits key.service)
    (hc : rules.IsCanonical) (hl : rules.LengthsFit) (hdepth : rules.depth < MessagePack.depthLimit)
    (config : Config) (store : SnapshotStore) :
    ∃ saved seeded told built made,
      store.save (.ofRules kind key rules) =
        .ok (saved, [(RawDocument.ofRules kind key rules).snapshotEvent]) ∧
      bootstrap saved.load (key, kind) config = .ok (some seeded, told) ∧
      RuleDocument.build (some (.ofRules kind key rules)) config = .ok (built, made) ∧
      (rules ≠ .null → seeded.SameRules built) ∧
      (rules = .null → built.state = .invalid ∧ seeded.state = .valid) ∧
      (∀ m, Payload.decoder kind rules = .error m → rules ≠ .null → seeded.isUsable = false) ∧
      ∀ level,
        ComesTo (publishSnapshot level saved.load (key, kind) config) (some seeded)
          (config.CanTell level seeded) ∧
        ComesTo (RuleDocument.publish level (some (.ofRules kind key rules)) config) built
          (config.CanTell level built) := by
  let raw := RawDocument.ofRules kind key rules
  have hkind : raw.documentType.ruleKind? = some kind :=
    RawDocument.ruleKind?_ofRules kind key rules
  have hrules : raw.rules kind = some rules := RawDocument.rules_ofRules kind key rules
  obtain ⟨saved, hsave, hload⟩ := store.save_of_ruleKind? hkind
  obtain ⟨made, hbuilt, -⟩ := RuleDocument.build_of_ruleKind? hkind config
  have hstored : raw.withoutNulls.documentType.ruleKind? = some kind := hkind
  rw [RawDocument.serviceKey_ofRules,
    RawDocument.ofSnapshot_ofRules hnamespace hservice hc hl hdepth] at hload
  obtain ⟨told, hseeded, -⟩ := bootstrap_of_sameKind hload hstored config
  let seeded := (RuleDocument.ofRaw raw.withoutNulls kind config).1.validate.document
  let built := (RuleDocument.ofRaw raw kind config).1.validate.document
  have hsame (h : rules ≠ .null) : seeded.markFromSnapshot.2.SameRules built := by
    have hraw : raw.withoutNulls = raw := RawDocument.withoutNulls_ofRules h
    simp only [seeded, hraw]
    exact RuleDocument.sameRules_markFromSnapshot built
  refine ⟨saved, seeded.markFromSnapshot.2, told, built, made, hsave, hseeded, hbuilt, hsame, ?_,
    ?_, fun level => ⟨?_, ?_⟩⟩
  · rintro rfl
    exact RuleDocument.state_validate_null kind key config
  · intro m hm h
    rw [(hsame h).isUsable, RuleDocument.isUsable,
      RuleDocument.state_validate_of_unreadable hrules hm config]
    rfl
  · exact comesTo_publishSnapshot hload hstored config level
  · exact RuleDocument.comesTo_publish hkind config level

/-- Rules that are one string cannot be read, behind a snapshot as little as without one. -/
theorem bootstrap_save_string :
    ∃ saved seeded told built made,
      SnapshotStore.empty.save (.ofRules .routing ⟨"default", "order"⟩ (.string "none")) =
        .ok (saved,
          [(RawDocument.ofRules .routing ⟨"default", "order"⟩ (.string "none")).snapshotEvent]) ∧
      bootstrap saved.load (⟨"default", "order"⟩, .routing) .default = .ok (some seeded, told) ∧
      RuleDocument.build (some (.ofRules .routing ⟨"default", "order"⟩ (.string "none"))) .default =
        .ok (built, made) ∧
      seeded.SameRules built ∧ seeded.isUsable = false := by
  obtain ⟨saved, seeded, told, built, made, hsave, hseeded, hbuilt, hsame, -, huseless, -⟩ :=
    bootstrap_save_ofRules .routing ⟨"default", "order"⟩ (.string "none") (by decide) (by decide)
      (.string _) (.string (by decide)) (by decide) .default .empty
  exact ⟨saved, seeded, told, built, made, hsave, hseeded, hbuilt, hsame (by simp),
    huseless _ rfl (by simp)⟩

/-- What is refused as rules when it is handed over is valid behind a snapshot. -/
theorem bootstrap_save_null :
    ∃ saved seeded told built made,
      SnapshotStore.empty.save (.ofRules .routing ⟨"Production", "order"⟩ .null) =
        .ok (saved, [(RawDocument.ofRules .routing ⟨"Production", "order"⟩ .null).snapshotEvent]) ∧
      bootstrap saved.load (⟨"Production", "order"⟩, .routing) .default =
        .ok (some seeded, told) ∧
      RuleDocument.build (some (.ofRules .routing ⟨"Production", "order"⟩ .null)) .default =
        .ok (built, made) ∧
      built.state = .invalid ∧ seeded.state = .valid :=
  ⟨_, _, _, _, _, rfl, rfl, rfl, rfl, rfl⟩

end RuleIntake
