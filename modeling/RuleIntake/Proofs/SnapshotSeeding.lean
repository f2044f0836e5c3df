import Mathlib
import RuleIntake.Proofs.DocumentSoundness
import RuleIntake.Proofs.SnapshotRoundTrip
import RuleIntake.Proofs.TextReading
import RuleIntake.Rule.SnapshotStore

/-!
# Seeding from snapshots

A document that is read from a text survives its snapshot unchanged. So what is made from the
snapshot in a store has the rules of the document that was saved, and is told apart only by its
mark. It is published whenever the document itself would be.
-/

namespace RuleIntake

/-! ### Documents from texts -/

namespace RawDocument

structure IsReadWithin (n : Nat) (raw : RawDocument) : Prop where
  routing : ∀ j ∈ raw.routing, j.IsReadWithin n
  rateLimit : ∀ j ∈ raw.rateLimit, j.IsReadWithin n

/-- How deep the rules of a document in a text may nest. -/
def textDepthLimit : Nat := Json.depthLimit - 1

lemma keeps_isReadWithin (n : Nat) :
    ∀ field ∈ (fields : List (Wire.Field Json.TextDecoder RawDocument)),
      Json.TextDecoder.Keeps (IsReadWithin n) n field := by
  simp only [fields, List.forall_mem_cons]
  refine ⟨?_, ?_, ?_, ?_, by simp⟩
  -- type and service leave the rules alone
  · apply Json.TextDecoder.keeps_of
    intro c t after hread raw hraw
    exact ⟨hraw.routing, hraw.rateLimit⟩
  · apply Json.TextDecoder.keeps_of
    intro c service after hread raw hraw
    exact ⟨hraw.routing, hraw.rateLimit⟩
  · apply Json.TextDecoder.keeps_of
    intro c routing after hread raw hraw
    exact ⟨Json.TextDecoder.isReadWithin_of_optional hread, hraw.rateLimit⟩
  · apply Json.TextDecoder.keeps_of
    intro c rateLimit after hread raw hraw
    exact ⟨hraw.routing, Json.TextDecoder.isReadWithin_of_optional hread⟩

lemma isReadWithin_of_ofText {text : String} {raw : RawDocument} (h : ofText text = .ok raw) :
    raw.IsReadWithin textDepthLimit := by
  have hrun : (decoder : Json.TextDecoder RawDocument).run text = .ok raw := by
    rw [ofText] at h
    cases hd : (decoder : Json.TextDecoder RawDocument).run text with
    | error e =>
      rw [hd] at h
      cases h
    | ok read =>
      rw [hd] at h
      cases h
      rfl
  obtain ⟨after, hread⟩ := Json.TextDecoder.exists_of_run_eq_ok hrun
  have hblank : blank.IsReadWithin textDepthLimit := ⟨by simp [blank], by simp [blank]⟩
  exact Json.TextDecoder.record_keeps (keeps_isReadWithin textDepthLimit) hblank hread

namespace IsReadWithin

variable {n : Nat} {raw : RawDocument}

lemma isCanonical (h : raw.IsReadWithin n) : raw.IsCanonical :=
  ⟨fun j hj => (h.routing j hj).isCanonical, fun j hj => (h.rateLimit j hj).isCanonical⟩

lemma withoutNulls (h : raw.IsReadWithin n) : raw.withoutNulls = raw := by
  rw [withoutNulls_eq_self]
  constructor
  · intro hnull
    exact (h.routing _ hnull).ne_null rfl
  · intro hnull
    exact (h.rateLimit _ hnull).ne_null rfl

lemma depth_ofOption {rules : Option Json} (h : ∀ j ∈ rules, j.IsReadWithin n) :
    (Json.ofOption id rules).depth ≤ n := by
  obtain _ | j := rules
  · exact Nat.zero_le n
  · exact (h j rfl).depth

lemma depth_le (h : raw.IsReadWithin n) (hn : 1 ≤ n) : raw.depth ≤ n + 1 := by
  rw [RawDocument.depth_le hn]
  exact ⟨depth_ofOption h.routing, depth_ofOption h.rateLimit⟩

end IsReadWithin

/-- A document from a text is read back from its snapshot. -/
lemma ofSnapshot_of_ofText {text : String} {raw : RawDocument} (h : ofText text = .ok raw)
    (hl : raw.LengthsFit) : ofSnapshot raw.snapshot = .ok raw := by
  have hread := isReadWithin_of_ofText h
  have hdepth : raw.depth ≤ MessagePack.depthLimit := by
    apply Nat.le_trans (hread.depth_le (by decide))
    decide
  have hsnapshot := ofSnapshot_encoded hl hread.isCanonical []
  rw [List.append_nil, if_pos hdepth, hread.withoutNulls] at hsnapshot
  exact hsnapshot

end RawDocument

/-! ### Stores -/

namespace SnapshotStore

lemma lookup_erase (store : SnapshotStore) (key : SnapshotKey) :
    (store.erase key).snapshots.lookup key = none := by
  rw [List.lookup_eq_none_iff]
  intro e he
  have hkey : e.1 ≠ key := of_decide_eq_true (List.mem_filter.mp he).2
  exact bne_iff_ne.mpr hkey.symm

lemma save_of_ruleKind? (store : SnapshotStore) {raw : RawDocument} {kind : RuleKind}
    (hkind : raw.documentType.ruleKind? = some kind) :
    ∃ saved, store.save raw = .ok (saved, [raw.snapshotEvent]) ∧
      saved.load (raw.serviceKey, kind) = (RawDocument.ofSnapshot raw.snapshot).map some := by
  refine ⟨_, by rw [save, DocumentType.ruleKind_of_ruleKind? hkind], ?_⟩
  rw [load, List.lookup_append, lookup_erase]
  simp

end SnapshotStore

/-! ### Documents from snapshots -/

namespace RuleDocument

/-- Two documents say the same about their rules. -/
structure SameRules (a b : RuleDocument) : Prop where
  service : a.service = b.service
  revision : a.revision = b.revision
  kind : a.kind = b.kind
  payload : a.payload = b.payload
  patterns : a.cache.patterns = b.cache.patterns
  validationError : a.validationError = b.validationError
  state : a.state = b.state
  isUsable : a.isUsable = b.isUsable

lemma sameRules_markFromSnapshot (d : RuleDocument) : d.markFromSnapshot.2.SameRules d :=
  ⟨rfl, rfl, rfl, rfl, rfl, rfl, rfl, rfl⟩

end RuleDocument

lemma bootstrapFrom_loaded {raw : RawDocument} {kind : RuleKind} {config : Config}
    {built : RuleDocument} {made : List Event} (service : ServiceKey)
    (hkind : raw.documentType.ruleKind? = some kind)
    (hbuilt : RuleDocument.build (some raw) config = .ok (built, made)) :
    ∃ more, bootstrapFrom (.ok (some raw)) (service, kind) config =
        .ok (some built.markFromSnapshot.2, made ++ more) ∧ ∀ e ∈ more, e.isTellable := by
  simp only [bootstrapFrom, DocumentType.ruleKind_of_ruleKind? hkind, hbuilt, ne_eq, not_true,
    if_false, List.append_assoc]
  refine ⟨_, rfl, ?_⟩
  cases built.validationError <;> simp [Event.isTellable]

section Loaded

variable {load : SnapshotKey → Except RuleError (Option RawDocument)} {key : SnapshotKey}
  {raw : RawDocument}

/-- Rules of the kind that was asked for become a document that is validated and marked. What
happens to it can be told as far as its previews allow. -/
lemma bootstrap_of_sameKind (h : load key = .ok (some raw))
    (hkind : raw.documentType.ruleKind? = some key.2) (config : Config) :
    let built := (RuleDocument.ofRaw raw key.2 config).1.validate.document
    ∃ told, bootstrap load key config = .ok (some built.markFromSnapshot.2, told) ∧
      ((∀ e ∈ told, e.isTellable) ↔
        config.logPreviewLength ≤ Event.maxPreviewLength ∨ built.cache.patterns = []) := by
  intro built
  obtain ⟨made, hbuilt, htellable⟩ := RuleDocument.build_of_ruleKind? hkind config
  obtain ⟨more, hseeded, hmore⟩ := bootstrapFrom_loaded key.1 hkind hbuilt
  refine ⟨made ++ more, ?_, ?_⟩
  · rw [bootstrap, h]
    exact hseeded
  · rw [List.forall_mem_append, and_iff_left hmore]
    exact htellable

theorem comesTo_publishSnapshot (h : load key = .ok (some raw))
    (hkind : raw.documentType.ruleKind? = some key.2) (config : Config) (level : LogLevel) :
    let built := (RuleDocument.ofRaw raw key.2 config).1.validate.document
    ComesTo (publishSnapshot level load key config) (some built.markFromSnapshot.2)
      (config.CanTell level built) := by
  intro built
  obtain ⟨told, hmade, htellable⟩ := bootstrap_of_sameKind h hkind config
  exact comesTo_telling hmade htellable level

end Loaded

/-- A document from a text can be saved in any store, and what is made from its snapshot then has
the same rules as what is made from the document itself. Only the mark differs. Both are published
unless somebody listens to what happens to their patterns and previews are too long. -/
theorem publish_save_sameRules (text : String) (raw : RawDocument) (kind : RuleKind)
    (htext : RawDocument.ofText text = .ok raw) (hkind : raw.documentType.ruleKind? = some kind)
    (hl : raw.LengthsFit) (config : Config) (store : SnapshotStore) :
    ∃ saved seeded told built made,
      store.save raw = .ok (saved, [raw.snapshotEvent]) ∧
      bootstrap saved.load (raw.serviceKey, kind) config = .ok (some seeded, told) ∧
      RuleDocument.build (some raw) config = .ok (built, made) ∧
      seeded.SameRules built ∧ seeded.fromSnapshot = true ∧ built.fromSnapshot = false ∧
      ∀ level,
        ComesTo (publishSnapshot level saved.load (raw.serviceKey, kind) config) (some seeded)
          (config.CanTell level built) ∧
        ComesTo (RuleDocument.publish level (some raw) config) built
          (config.CanTell level built) := by
  obtain ⟨saved, hsave, hload⟩ := store.save_of_ruleKind? hkind
  rw [RawDocument.ofSnapshot_of_ofText htext hl] at hload
  obtain ⟨made, hbuilt, -⟩ := RuleDocument.build_of_ruleKind? hkind config
  obtain ⟨told, hseeded, -⟩ := bootstrap_of_sameKind hload hkind config
  refine ⟨saved, _, told, _, made, hsave, hseeded, hbuilt,
    RuleDocument.sameRules_markFromSnapshot _, rfl, ?_, fun level => ⟨?_, ?_⟩⟩
  · rw [RuleDocument.validate_fromSnapshot]
    rfl
  · exact comesTo_publishSnapshot hload hkind config level
  · exact RuleDocument.comesTo_publish hkind config level

/-! ### Two limits -/

namespace RawDocument

open RuleDocument (limitsDocument)

/-- The labels come in another order here, and the revision comes last. -/
def limitsText : String := .join [
  "\x7b\"type\":\"RATE_LIMIT\",",
  "\"service\":\x7b\"namespace\":\"Production\",\"name\":\"order\"\x7d,",
  "\"rateLimit\":\x7b\"rules\":[\x7b\"id\":\"b\",\"priority\":1,\"labels\":\x7b",
  "\"zone\":\x7b\"value\":\"x\"\x7d,\"path\":\x7b\"value\":\"ab\",\"type\":\"REGEX\"\x7d\x7d\x7d,",
  "\x7b\"id\":\"a\",\"labels\":\x7b\"host\":\x7b\"type\":\"REGEX\",\"value\":\"cd\"\x7d,",
  "\"path\":\x7b\"type\":\"REGEX\",\"value\":\"ab\"\x7d,",
  "\"zone\":\x7b\"type\":\"REGEX\",\"value\":\"*\"\x7d\x7d\x7d],\"revision\":\"7\"\x7d\x7d"]

set_option maxRecDepth 1000 in
lemma ofText_limitsText : ofText limitsText = .ok (limitsDocument "ab") := by
  simp only [ofText, Json.TextDecoder.run, Json.Cursor.ofString, limitsText, String.toList_join,
    List.flatMap_cons, List.flatMap_nil, String.reduceToList]
  cbv

lemma lengthsFit_limitsDocument : (limitsDocument "ab").LengthsFit where
  service := by
    rintro r ⟨⟩
    exact ⟨by rintro s ⟨⟩; decide, by rintro s ⟨⟩; decide⟩
  routing := by rintro j ⟨⟩
  rateLimit := by
    rintro j ⟨⟩
    have hlabel {value : String} (h : LengthFits value) :
        (Json.object [("type", .string "REGEX"), ("value", .string value)]).LengthsFit :=
      .object (by simp) (by simp only [List.forall_mem_cons]; decide)
        (by simpa using ⟨.string (by decide), .string h⟩)
    have hexact : (Json.object [("value", .string "x")]).LengthsFit :=
      .object (by decide) (by decide) (by simpa using .string (by decide))
    have hsecond : (Json.object [("path", .object [("type", .string "REGEX"),
        ("value", .string "ab")]), ("zone", .object [("value", .string "x")])]).LengthsFit :=
      .object (by decide) (by decide) (by simpa using ⟨hlabel (by decide), hexact⟩)
    have hfirst : (Json.object [("host", .object [("type", .string "REGEX"),
        ("value", .string "cd")]), ("path", .object [("type", .string "REGEX"),
        ("value", .string "ab")]), ("zone", .object [("type", .string "REGEX"),
        ("value", .string "*")])]).LengthsFit :=
      .object (by decide) (by decide)
        (by simpa using ⟨hlabel (by decide), hlabel (by decide), hlabel (by decide)⟩)
    refine .object (by decide) (by decide) ?_
    simp only [List.forall_mem_cons]
    refine ⟨.string (by decide), .array (by decide) ?_, List.forall_mem_nil _⟩
    simp only [List.forall_mem_cons]
    refine ⟨.object (by decide) (by decide) ?_, .object (by decide) (by decide) ?_,
      List.forall_mem_nil _⟩
    · simpa using ⟨.string (by decide), hsecond, .integer _⟩
    · simpa using ⟨.string (by decide), hfirst⟩

end RawDocument

/-- An older snapshot of the service gives way to the new one. The limit without a priority comes
first behind the snapshot, and its patterns do. -/
theorem publish_save_limitsText :
    let key : SnapshotKey := (⟨"Production", "order"⟩, .rateLimiting)
    let raw := RuleDocument.limitsDocument "ab"
    RawDocument.ofText RawDocument.limitsText = .ok raw ∧
      ∃ saved seeded told built made,
        (SnapshotStore.mk [(key, [0xC0])]).save raw = .ok (saved, [raw.snapshotEvent]) ∧
        publishSnapshot .debug saved.load key .default = .ok (some seeded, told) ∧
        RuleDocument.publish .debug (some raw) .default = .ok (built, made) ∧
        seeded.SameRules built ∧ seeded.fromSnapshot = true ∧ built.fromSnapshot = false ∧
        seeded.state = .valid ∧ seeded.cache.patterns = ["cd", "ab"] := by
  intro key raw
  obtain ⟨saved, seeded, -, built, events, hsave, -, hbuilt, hsame, hseeded, hdirect, hpublish⟩ :=
    publish_save_sameRules RawDocument.limitsText raw .rateLimiting RawDocument.ofText_limitsText
      rfl RawDocument.lengthsFit_limitsDocument .default ⟨[(key, [0xC0])]⟩
  have hshort : Config.default.CanTell .debug built := .inr (.inl (by decide))
  obtain ⟨told, htold⟩ := (hpublish .debug).1.published hshort
  obtain ⟨made, hmade⟩ := (hpublish .debug).2.published hshort
  have hkind : raw.documentType.ruleKind? = some .rateLimiting := rfl
  obtain ⟨_, hvalidated, -⟩ := RuleDocument.build_of_ruleKind? hkind .default
  cases hbuilt.symm.trans hvalidated
  refine ⟨RawDocument.ofText_limitsText, saved, seeded, told, _, made, hsave, htold, hmade, hsame,
    hseeded, hdirect, ?_, ?_⟩
  · rw [hsame.state]
    cbv
  · rw [hsame.patterns]
    cbv

/-- The same text has no document behind its snapshot where previews are too long. -/
theorem publish_save_longPreviews :
    let key : SnapshotKey := (⟨"Production", "order"⟩, .rateLimiting)
    let raw := RuleDocument.limitsDocument "ab"
    RawDocument.ofText RawDocument.limitsText = .ok raw ∧
      ∃ saved, SnapshotStore.empty.save raw = .ok (saved, [raw.snapshotEvent]) ∧
        publishSnapshot .debug saved.load key .longPreviews =
          .error (.brokenOff [.constructed key.1 .rateLimiting "7"]) := by
  intro key raw
  have hkind : raw.documentType.ruleKind? = some .rateLimiting := rfl
  obtain ⟨saved, hsave, hload⟩ := SnapshotStore.empty.save_of_ruleKind? hkind
  rw [RawDocument.ofSnapshot_of_ofText RawDocument.ofText_limitsText
    RawDocument.lengthsFit_limitsDocument] at hload
  have hlost : telling .debug (bootstrapFrom (.ok (some raw)) key .longPreviews) =
      .error (.brokenOff [.constructed key.1 .rateLimiting "7"]) := by cbv
  refine ⟨RawDocument.ofText_limitsText, saved, hsave, ?_⟩
  rw [publishSnapshot, bootstrap, ← hlost]
  exact congrArg (fun loaded => telling .debug (bootstrapFrom loaded key .longPreviews)) hload

end RuleIntake
