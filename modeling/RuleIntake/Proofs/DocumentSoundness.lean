import Mathlib
import RuleIntake.Proofs.Publication

/-!
# Sound documents

A document with rules is valid exactly if its rules can be read and all match entries in them are
sound. Its cache then holds exactly the patterns of the entries. It is published as far as it can be
told.
-/

namespace RuleIntake

/-- An entry that cannot be used: a variable without a name, or a pattern that does not compile.
What matches everything can always be used. -/
def MatchEntry.IsUnsound (compile : String → Except Pattern.CompileError Regex)
    (e : MatchEntry) : Prop :=
  e.value ≠ wildcard ∧
    (e.valueKind = .variableName ∧ e.value = "" ∨
      e.kind = .regex ∧ e.valueKind = .text ∧ ∃ fault, compile e.value = .error fault)

lemma Pattern.source_of_compile {limits : Limits} {p : String} {regex : Regex}
    (h : compile limits p = .ok regex) : regex.source = p := by
  unfold compile at h
  split at h
  · cases h
  · split_ifs at h
    cases h
    rfl

namespace MatcherCache

lemma serves_ofConfig {config : Config} {p : String} :
    (ofConfig config).Serves p ↔ ∃ regex, config.compile p = .ok regex := by
  constructor
  · rintro (hp | hregex)
    · cases hp
    · exact hregex
  · intro hregex
    exact .inr hregex

lemma isSoundFor_ofConfig {config : Config} {e : MatchEntry} :
    e.IsSoundFor (ofConfig config) ↔ ¬e.IsUnsound config.compile := by
  have hcompile : (∃ regex, config.compile e.value = .ok regex) ↔
      ¬∃ fault, config.compile e.value = .error fault := by
    cases config.compile e.value <;> simp
  rw [MatchEntry.IsSoundFor, MatchEntry.IsUnsound, serves_ofConfig, hcompile,
    MatchEntry.LacksName, MatchEntry.NeedsMatcher]
  tauto

end MatcherCache

/-! ### Completing rules -/

namespace Payload

lemma kind_of_decoder {kind : RuleKind} {j : Json} {p : Payload}
    (h : decoder kind j = .ok p) : p.kind = kind := by
  cases kind with
  | routing =>
    change (Routing.decoder j).map Payload.routing = .ok p at h
    cases hd : Routing.decoder j <;> rw [hd] at h <;> cases h
    rfl
  | rateLimiting =>
    change (RateLimit.decoder j).map Payload.rateLimiting = .ok p at h
    cases hd : RateLimit.decoder j <;> rw [hd] at h <;> cases h
    rfl

lemma kind_withDefaults (p : Payload) (kind : RuleKind) : (p.withDefaults kind).kind = p.kind := by
  cases kind <;> cases p <;> rfl

lemma maps_withDefaults_route (r : Route) : r.withDefaults.maps = r.maps := by
  simp only [Route.maps, Route.withDefaults, List.map_map]
  rfl

/-- Completing rules leaves their match entries as they are, and at most brings them into another
order. -/
lemma maps_withDefaults_perm (kind : RuleKind) (p : Payload) :
    (p.withDefaults kind).maps.Perm p.maps := by
  match kind, p with
  | .routing, .routing r =>
    have hroutes (rs : List Route) :
        (rs.map Route.withDefaults).flatMap Route.maps = rs.flatMap Route.maps := by
      rw [List.flatMap_map]
      simp only [maps_withDefaults_route]
    simp only [withDefaults, Routing.withDefaults, maps, List.flatMap_append, hroutes]
    exact .refl _
  | .rateLimiting, .rateLimiting r =>
    have hlabels : (r.rules.map RateLimitRule.withDefaults).map (·.labels) =
        r.rules.map (·.labels) := by
      rw [List.map_map]
      rfl
    have hperm := (List.mergeSort_perm (r.rules.map RateLimitRule.withDefaults)
      RateLimitRule.comesBefore).map (·.labels)
    rw [hlabels] at hperm
    exact hperm
  | .routing, .rateLimiting r => exact .refl _
  | .rateLimiting, .routing r => exact .refl _

lemma mem_entries_withDefaults {kind : RuleKind} {p : Payload} {e : String × MatchEntry} :
    e ∈ (p.withDefaults kind).entries ↔ ∃ m ∈ p.maps, e ∈ m.entries := by
  rw [entries, List.mem_flatMap]
  simp only [(maps_withDefaults_perm kind p).mem_iff]

end Payload

/-! ### Documents -/

namespace RuleDocument

variable {raw : RawDocument} {kind : RuleKind} {config : Config}

/-- What comes of the rules of a new document: there are none, they are of the wrong form, or they
are completed and inspected. -/
lemma inspect_cases (raw : RawDocument) (kind : RuleKind) (config : Config) :
    (raw.rules kind = none ∧
        ((ofRaw raw kind config).1.inspect kind).2 = .clean (.ofConfig config)) ∨
      (∃ j m e, raw.rules kind = some j ∧ Payload.decoder kind j = .error m ∧
        ((ofRaw raw kind config).1.inspect kind).2 = ⟨.ofConfig config, [], .error e⟩) ∨
      ∃ j p, raw.rules kind = some j ∧ Payload.decoder kind j = .ok p ∧
        ((ofRaw raw kind config).1.inspect kind).2 =
          .payload kind (p.withDefaults kind) (.ofConfig config) := by
  have hcontent : (ofRaw raw kind config).1.content = raw.extract kind := rfl
  rcases raw.extract_cases kind with ⟨hrules, h⟩ | ⟨j, m, hrules, hd, h⟩ | ⟨j, p, hrules, hd, h⟩ <;>
    rw [h] at hcontent
  · left
    refine ⟨hrules, ?_⟩
    rw [inspect_of_none hcontent]
    rfl
  · right; left
    refine ⟨j, m, .malformedDocument (.value m), hrules, hd, ?_⟩
    rw [inspect_of_error hcontent]
    rfl
  · right; right
    refine ⟨j, p, hrules, hd, ?_⟩
    rw [inspect_of_some hcontent]
    rfl

/-- The inspection of rules of a kind is the walk through the entries of the completed rules. -/
lemma inspect_walk {p : Payload} (hp : p.kind = kind) :
    Inspection.Walks (p.withDefaults kind).entries
      (Inspection.payload kind (p.withDefaults kind)) :=
  Inspection.walks_payload ((p.kind_withDefaults kind).trans hp)

/-- The matchers of a new document are compiled from the patterns they stand under. -/
lemma source_of_mem_inspect {e : String × Matcher}
    (he : e ∈ ((ofRaw raw kind config).1.inspect kind).2.cache.entries) :
    e.2.regex.source = e.1 := by
  have hgrows : ((ofRaw raw kind config).1.inspect kind).2.cache.Grows (.ofConfig config) := by
    rcases inspect_cases raw kind config with ⟨-, h⟩ | ⟨_, _, _, -, -, h⟩ | ⟨j, p, -, hd, h⟩ <;>
      rw [h]
    · exact .refl _
    · exact .refl _
    · rw [(inspect_walk (Payload.kind_of_decoder hd) _).1]
      exact Inspection.entries_grows _ _
  rcases hgrows.compiled e he with hnone | hcompile
  · cases hnone
  · exact Pattern.source_of_compile hcompile

lemma inspect_outcome : ((ofRaw raw kind config).1.inspect kind).2.outcome = .ok () ↔
    raw.rules kind = none ∨ ∃ j p, raw.rules kind = some j ∧ Payload.decoder kind j = .ok p ∧
      ∀ m ∈ p.maps, ∀ e ∈ m.entries, ¬e.2.IsUnsound config.compile := by
  rcases inspect_cases raw kind config with ⟨hrules, h⟩ | ⟨j, m, e, hrules, hd, h⟩ |
    ⟨j, p, hrules, hd, h⟩ <;> rw [h]
  · simp [hrules, Inspection.clean]
  · simp [hrules, hd]
  · rw [(inspect_walk (Payload.kind_of_decoder hd) _).2, Inspection.entries_outcome]
    simp only [Payload.mem_entries_withDefaults, MatcherCache.isSoundFor_ofConfig]
    constructor
    · intro hsound
      have hmaps : ∀ m ∈ p.maps, ∀ e ∈ m.entries, ¬e.2.IsUnsound config.compile := by
        intro m hm e he
        exact hsound e ⟨m, hm, he⟩
      exact .inr ⟨j, p, hrules, hd, hmaps⟩
    · rintro (hnone | ⟨j', p', hrules', hd', hsound⟩) e ⟨m, hm, he⟩
      · rw [hrules] at hnone
        cases hnone
      · cases hrules.symm.trans hrules'
        cases hd.symm.trans hd'
        exact hsound m hm e he

lemma inspect_patterns (hok : ((ofRaw raw kind config).1.inspect kind).2.outcome = .ok ())
    (q : String) : q ∈ ((ofRaw raw kind config).1.inspect kind).2.cache.patterns ↔
      ∃ j p, raw.rules kind = some j ∧ Payload.decoder kind j = .ok p ∧
        ∃ m ∈ p.maps, ∃ e ∈ m.entries, e.2.NeedsMatcher ∧ e.2.value = q := by
  have hempty : q ∉ (MatcherCache.ofConfig config).patterns := by rintro ⟨⟩
  rcases inspect_cases raw kind config with ⟨hrules, h⟩ | ⟨j, m, e, hrules, hd, h⟩ |
    ⟨j, p, hrules, hd, h⟩ <;> rw [h] at hok ⊢
  · simpa [hrules, Inspection.clean] using hempty
  · cases hok
  · rw [(inspect_walk (Payload.kind_of_decoder hd) _).2] at hok
    rw [(inspect_walk (Payload.kind_of_decoder hd) _).1, Inspection.entries_patterns hok,
      or_iff_right hempty]
    simp only [Payload.mem_entries_withDefaults]
    constructor
    · rintro ⟨e, ⟨m, hm, he⟩, hq⟩
      exact ⟨j, p, hrules, hd, m, hm, e, he, hq⟩
    · rintro ⟨j', p', hrules', hd', m, hm, e, he, hq⟩
      cases hrules.symm.trans hrules'
      cases hd.symm.trans hd'
      exact ⟨e, ⟨m, hm, he⟩, hq⟩

/-- A new document is valid as soon as it is validated exactly if it holds no rules of its kind or
sound ones. -/
lemma state_validate_ofRaw (raw : RawDocument) (kind : RuleKind) (config : Config) :
    (ofRaw raw kind config).1.validate.document.state = .valid ↔
      raw.rules kind = none ∨ ∃ j p, raw.rules kind = some j ∧ Payload.decoder kind j = .ok p ∧
        ∀ m ∈ p.maps, ∀ e ∈ m.entries, ¬e.2.IsUnsound config.compile := by
  have hkind : (ofRaw raw kind config).1.kind = some kind := rfl
  rw [state_validate_eq_valid hkind]
  exact inspect_outcome

/-- A document of a type that holds rules can be made. It is valid if it holds no rules of its kind,
or rules that can be read and whose entries are all sound, and invalid otherwise. The patterns of a
valid document are those of its entries that need matchers, and each matcher is made from its
pattern. The document is published unless somebody listens to what happens to its patterns and
previews are too long. -/
theorem publish_valid_iff (raw : RawDocument) (kind : RuleKind)
    (hkind : raw.documentType.ruleKind? = some kind) (config : Config) :
    ∃ d events, build (some raw) config = .ok (d, events) ∧
      (∀ level, ComesTo (publish level (some raw) config) d (config.CanTell level d)) ∧
      (d.state = .valid ↔
        raw.rules kind = none ∨ ∃ j p, raw.rules kind = some j ∧ Payload.decoder kind j = .ok p ∧
          ∀ m ∈ p.maps, ∀ e ∈ m.entries, ¬e.2.IsUnsound config.compile) ∧
      (d.state ≠ .valid → d.state = .invalid) ∧
      (d.state = .valid →
        (∀ q, q ∈ d.cache.patterns ↔
          ∃ j p, raw.rules kind = some j ∧ Payload.decoder kind j = .ok p ∧
            ∃ m ∈ p.maps, ∃ e ∈ m.entries, e.2.NeedsMatcher ∧ e.2.value = q) ∧
        ∀ e ∈ d.cache.entries, e.2.regex.source = e.1) := by
  have hd : (ofRaw raw kind config).1.kind = some kind := rfl
  obtain ⟨events, hbuild, -⟩ := build_of_ruleKind? hkind config
  have hcache : (ofRaw raw kind config).1.validate.document.cache =
      ((ofRaw raw kind config).1.inspect kind).2.cache := by
    rw [validate_document hd]
  refine ⟨_, events, hbuild, comesTo_publish hkind config, state_validate_ofRaw raw kind config,
    (state_validate_cases hd).resolve_left, fun hvalid => ?_⟩
  have hpatterns := inspect_patterns ((state_validate_eq_valid hd).mp hvalid)
  rw [hcache]
  exact ⟨hpatterns, fun e he => source_of_mem_inspect he⟩

def labelRules (pattern : String) : Payload :=
  .rateLimiting ⟨[⟨"", "", "", none, none, none,
    ⟨[("path", ⟨.regex, .text, pattern⟩)], List.pairwise_singleton _ _⟩,
    [], none, none, none⟩], none⟩

def labelDocument (pattern : String) : RawDocument :=
  ⟨.rateLimit, none, none, some (.object [("rules", .array [.object [("labels",
    .object [("path", .object [("type", .string "REGEX"), ("value", .string pattern)])])]])])⟩

lemma mem_entries_labelRules {pattern : String} {m : MatchMetadata} {e : String × MatchEntry}
    (hm : m ∈ (labelRules pattern).maps) (he : e ∈ m.entries) :
    e = ("path", ⟨.regex, .text, pattern⟩) := by
  cases List.mem_singleton.mp hm
  exact List.mem_singleton.mp he

lemma decoder_labelDocument {pattern : String} {j : Json} {p : Payload}
    (hj : (labelDocument pattern).rules .rateLimiting = some j)
    (hp : Payload.decoder .rateLimiting j = .ok p) : p = labelRules pattern := by
  cases hj
  cases hp
  rfl

lemma sound_labelRules {config : Config} {pattern : String}
    (h : (config.compile pattern).isOk = true) :
    ∀ m ∈ (labelRules pattern).maps, ∀ e ∈ m.entries, ¬e.2.IsUnsound config.compile := by
  intro m hm e he
  rw [mem_entries_labelRules hm he]
  rintro ⟨-, ⟨hkind, -⟩ | ⟨-, -, fault, hfault⟩⟩
  · cases hkind
  · rw [hfault] at h
    cases h

/-- One document is valid and has the matcher of its label; the label of the other one does not
compile. Both are published. -/
theorem publish_labelDocument :
    (∃ d told, publish .debug (some (labelDocument "ab")) .default = .ok (d, told) ∧
      d.state = .valid ∧ ∀ q, q ∈ d.cache.patterns ↔ q = "ab") ∧
    ∃ d told, publish .debug (some (labelDocument "(")) .default = .ok (d, told) ∧
      d.state = .invalid := by
  have hshort : Config.default.logPreviewLength ≤ Event.maxPreviewLength := by decide
  constructor
  · obtain ⟨d, events, -, hpublish, hiff, -, hpatterns⟩ :=
      publish_valid_iff (labelDocument "ab") .rateLimiting rfl .default
    obtain ⟨told, htold⟩ := (hpublish .debug).published (.inr (.inl hshort))
    have hvalid : d.state = .valid :=
      hiff.mpr (.inr ⟨_, labelRules "ab", rfl, rfl, sound_labelRules (by cbv)⟩)
    refine ⟨d, told, htold, hvalid, fun q => ?_⟩
    rw [(hpatterns hvalid).1 q]
    constructor
    · rintro ⟨j, p, hj, hp, m, hm, e, he, -, rfl⟩
      rw [decoder_labelDocument hj hp] at hm
      rw [mem_entries_labelRules hm he]
    · rintro rfl
      exact ⟨_, labelRules "ab", rfl, rfl, _, List.mem_singleton_self _, _,
        List.mem_singleton_self _, ⟨by decide, rfl, rfl⟩, rfl⟩
  · obtain ⟨d, events, -, hpublish, hiff, hinvalid, -⟩ :=
      publish_valid_iff (labelDocument "(") .rateLimiting rfl .default
    obtain ⟨told, htold⟩ := (hpublish .debug).published (.inr (.inl hshort))
    refine ⟨d, told, htold, hinvalid fun hvalid => ?_⟩
    rcases hiff.mp hvalid with hnone | ⟨j, p, hj, hp, hsound⟩
    · cases hnone
    have hfault : ∃ fault, Config.default.compile "(" = .error fault := by
      have hok : (Config.default.compile "(").isOk = false := by cbv
      cases hc : Config.default.compile "(" with
      | error fault => exact ⟨fault, rfl⟩
      | ok regex =>
        rw [hc] at hok
        cases hok
    rw [decoder_labelDocument hj hp] at hsound
    exact hsound _ (List.mem_singleton_self _) _ (List.mem_singleton_self _)
      ⟨by decide, .inr ⟨rfl, rfl, hfault⟩⟩

/-- Sound rules are lost where previews are too long. -/
theorem publish_longPreviews :
    (∃ j, (labelDocument "ab").rules .rateLimiting = some j ∧
      Payload.decoder .rateLimiting j = .ok (labelRules "ab") ∧
      ∀ m ∈ (labelRules "ab").maps, ∀ e ∈ m.entries,
        ¬e.2.IsUnsound Config.longPreviews.compile) ∧
      publish .debug (some (labelDocument "ab")) .longPreviews =
        .error (.brokenOff [.constructed .empty .rateLimiting ""]) := by
  refine ⟨⟨_, rfl, rfl, sound_labelRules (by cbv)⟩, ?_⟩
  cbv

/-- A delivery of two limits. The one that is tried last comes first, and only it has a priority. -/
def limitsDocument (pattern : String) : RawDocument :=
  let label (value : String) : Json :=
    .object [("type", .string "REGEX"), ("value", .string value)]
  ⟨.rateLimit, some ⟨some "Production", some "order"⟩, none, some (.object [
    ("revision", .string "7"),
    ("rules", .array [
      .object [("id", .string "b"),
        ("labels", .object [("path", label pattern), ("zone", .object [("value", .string "x")])]),
        ("priority", .ofWord 1)],
      .object [("id", .string "a"),
        ("labels", .object [("host", label "cd"), ("path", label "ab"), ("zone", label "*")])]])])⟩

end RuleDocument

end RuleIntake
