import Mathlib
import RuleIntake.Proofs.ValidationOrders

/-!
# The order of delivery

Rate limit rules that differ in rank come into one order, whatever order they are delivered in. So
two documents whose rules are the same up to order say the same once they are validated, down to the
error that is found first. The order in which the labels of a rule are visited only has to be the
same for both.
-/

namespace RuleIntake

/-! ### Rules -/

namespace RateLimitRule

/-- What decides when a rule is tried: its priority, which counts as 0 if it is missing, and then
its identifier. -/
def rank (r : RateLimitRule) : UInt32 × String := (r.priority.getD 0, r.id)

/-- Rules that may be tried before each other are of one rank. -/
lemma rank_eq_of_comesBefore {a b : RateLimitRule} (hab : a.comesBefore b = true)
    (hba : b.comesBefore a = true) : a.rank = b.rank := by
  rw [comesBefore_iff] at hab hba
  rcases hab with hab | ⟨hpriority, hid⟩
  · rcases hba with hba | ⟨hpriority, -⟩
    · exact absurd hba (UInt32.lt_asymm hab)
    · exact absurd hab (hpriority ▸ UInt32.lt_irrefl _)
  · rcases hba with hba | ⟨-, hid'⟩
    · exact absurd hba (hpriority ▸ UInt32.lt_irrefl _)
    · exact Prod.ext hpriority (String.le_antisymm hid hid')

/-- Rules have ranks of their own. -/
def RanksDiffer (rules : List RateLimitRule) : Prop := (rules.map rank).Nodup

instance (rules : List RateLimitRule) : Decidable (RanksDiffer rules) :=
  inferInstanceAs (Decidable (List.Nodup _))

lemma RanksDiffer.perm {rules others : List RateLimitRule} (h : RanksDiffer rules)
    (hperm : rules.Perm others) : RanksDiffer others :=
  (hperm.map rank).nodup_iff.mp h

lemma RanksDiffer.withDefaults {rules : List RateLimitRule} (h : RanksDiffer rules) :
    RanksDiffer (rules.map withDefaults) := by
  rw [RanksDiffer, List.map_map]
  exact h

/-- Sorting brings rules that differ in rank into one order. -/
lemma mergeSort_of_perm {rules others : List RateLimitRule} (hperm : rules.Perm others)
    (h : RanksDiffer rules) : rules.mergeSort comesBefore = others.mergeSort comesBefore := by
  have hsorted (rules : List RateLimitRule) :
      (rules.mergeSort comesBefore).Pairwise (comesBefore · ·) :=
    List.pairwise_mergeSort comesBefore_trans comesBefore_total rules
  have hsame : (rules.mergeSort comesBefore).Perm (others.mergeSort comesBefore) :=
    (List.mergeSort_perm rules _).trans (hperm.trans (List.mergeSort_perm others _).symm)
  have hranks : RanksDiffer (rules.mergeSort comesBefore) :=
    h.perm (List.mergeSort_perm rules _).symm
  refine hsame.eq_of_pairwise ?_ (hsorted rules) (hsorted others)
  intro a b ha hb hab hba
  exact List.inj_on_of_nodup_map hranks ha (hsame.mem_iff.mpr hb) (rank_eq_of_comesBefore hab hba)

end RateLimitRule

lemma RateLimit.withDefaults_of_perm {p q : RateLimit} (hrules : p.rules.Perm q.rules)
    (hrevision : p.revision = q.revision) (hranks : RateLimitRule.RanksDiffer p.rules) :
    p.withDefaults = q.withDefaults := by
  rw [withDefaults, withDefaults, hrevision,
    RateLimitRule.mergeSort_of_perm (hrules.map _) hranks.withDefaults]

/-! ### Documents -/

namespace RuleDocument

lemma content_ofRaw_rateLimit {raw : RawDocument} {j : Json} {p : RateLimit}
    (hrules : raw.rateLimit = some j) (h : RateLimit.decoder j = .ok p) (config : Config) :
    (ofRaw raw .rateLimiting config).1.content = .ok (some (.rateLimiting p)) := by
  have hdecoder : Payload.decoder .rateLimiting j = .ok (.rateLimiting p) := by
    change (RateLimit.decoder j).map Payload.rateLimiting = _
    rw [h]
    rfl
  change raw.extract .rateLimiting = _
  rw [RawDocument.extract, RawDocument.rules, hrules]
  simp only [hdecoder]

/-- Two validations come out the same, with the given rate limit rules. -/
structure ComesOutAlike (rules : RateLimit) (v w : Validation) : Prop where
  payload : v.document.payload = some (.rateLimiting rules)
  payload' : w.document.payload = some (.rateLimiting rules)
  outcome : v.outcome = w.outcome
  validationError : v.document.validationError = w.document.validationError
  cache : v.document.cache = w.document.cache
  revision : v.document.revision = w.document.revision
  state : v.document.state = w.document.state

/-- A validation sees the completed rules and the cache, and nothing else of a document. -/
lemma comesOutAlike_of_completed {d e : RuleDocument} {p q : RateLimit}
    (hd : d.kind = some .rateLimiting) (he : e.kind = some .rateLimiting)
    (hp : d.content = .ok (some (.rateLimiting p))) (hq : e.content = .ok (some (.rateLimiting q)))
    (hcompleted : p.withDefaults = q.withDefaults) (hcache : d.cache = e.cache)
    (hrevision : d.revision = e.revision) (order : EntryOrder) :
    ComesOutAlike p.withDefaults (d.validateIn order) (e.validateIn order) := by
  have hinspect : d.inspectIn order .rateLimiting = e.inspectIn order .rateLimiting := by
    rw [inspectIn_of_some hp, inspectIn_of_some hq, hcache]
    simp only [Payload.withDefaults, hcompleted]
  have hcontent : (d.inspectIn order .rateLimiting).1 =
      .ok (some (.rateLimiting p.withDefaults)) := by
    rw [inspectIn_of_some hp]
    rfl
  constructor
  · rw [validateIn_document hd, RuleDocument.payload, hcontent]
  · rw [validateIn_document he, RuleDocument.payload, ← hinspect, hcontent]
  · rw [validateIn_outcome hd, validateIn_outcome he, hinspect]
  · rw [validateIn_document hd, validateIn_document he, hinspect]
    rfl
  · rw [validateIn_document hd, validateIn_document he, hinspect]
  · rw [validateIn_document hd, validateIn_document he, hrevision]
  · rw [validateIn_document hd, validateIn_document he, hinspect, RuleDocument.state,
      RuleDocument.state, hd, he]

/-- Documents with the same rate limit rules, all of different ranks, delivered in any order, come
out the same: their rules are in one order, and the same error is found first. This is so in
whatever order labels are visited, the one of their names among them. -/
theorem validate_anyDelivery (a b : RawDocument) (ha : a.documentType = .rateLimit)
    (hb : b.documentType = .rateLimit) {ja jb : Json} (hja : a.rateLimit = some ja)
    (hjb : b.rateLimit = some jb) {p q : RateLimit} (hp : RateLimit.decoder ja = .ok p)
    (hq : RateLimit.decoder jb = .ok q) (hrevision : p.revision = q.revision)
    (hrules : p.rules.Perm q.rules) (hranks : RateLimitRule.RanksDiffer p.rules)
    (config : Config) :
    ∃ d e told told', construct (some a) config = .ok (d, told) ∧
      construct (some b) config = .ok (e, told') ∧
      ComesOutAlike p.withDefaults d.validate e.validate ∧
      ∀ order, ComesOutAlike p.withDefaults (d.validateIn order) (e.validateIn order) := by
  have hkinda : a.documentType.ruleKind? = some .rateLimiting := by rw [ha]; rfl
  have hkindb : b.documentType.ruleKind? = some .rateLimiting := by rw [hb]; rfl
  let d := (ofRaw a .rateLimiting config).1
  let e := (ofRaw b .rateLimiting config).1
  have hcontentd : d.content = .ok (some (.rateLimiting p)) := content_ofRaw_rateLimit hja hp config
  have hcontente : e.content = .ok (some (.rateLimiting q)) := content_ofRaw_rateLimit hjb hq config
  have hcompleted : p.withDefaults = q.withDefaults :=
    RateLimit.withDefaults_of_perm hrules hrevision hranks
  have hsame : d.revision = e.revision := by
    rw [(IsCoherent.ofRaw a .rateLimiting config).revision,
      (IsCoherent.ofRaw b .rateLimiting config).revision, payload_of_content hcontentd,
      payload_of_content hcontente]
    exact congrArg (·.getD "") hrevision
  have halike :=
    comesOutAlike_of_completed (d := d) rfl rfl hcontentd hcontente hcompleted rfl hsame
  refine ⟨d, e, _, _, construct_of_ruleKind? hkinda config, construct_of_ruleKind? hkindb config,
    ?_, halike⟩
  rw [← validateIn_byName d, ← validateIn_byName e]
  exact halike .byName

/-! ### Two rules that are both refused -/

/-- A rule whose only label lacks the name of its variable. -/
def namelessRule (id field : String) (priority : Option UInt32) : RateLimitRule :=
  ⟨id, "", "", priority, none, none,
    ⟨[(field, ⟨.exact, .variableName, ""⟩)], List.pairwise_singleton _ _⟩, [], none, none, none⟩

def namelessRules (rules : List Json) : RawDocument :=
  ⟨.rateLimit, none, none, some (.object [("rules", .array rules)])⟩

/-- The first rule leaves its priority out, the second one says 0. -/
def namelessHost : Json :=
  .object [("id", .string "b"), ("labels", .object [("host",
    .object [("valueType", .string "VARIABLE")])])]

def namelessZone : Json :=
  .object [("id", .string "a"), ("labels", .object [("zone",
    .object [("valueType", .string "VARIABLE")])]), ("priority", .ofWord 0)]

/-- Whichever rule is delivered first, the one with the lesser identifier is refused. -/
theorem validate_namelessRules :
    ∃ d e told told',
      construct (some (namelessRules [namelessHost, namelessZone])) .default = .ok (d, told) ∧
      construct (some (namelessRules [namelessZone, namelessHost])) .default = .ok (e, told') ∧
      d.validate.outcome = .error (.malformedReference "zone") ∧
      d.validate.outcome = e.validate.outcome ∧
      d.validate.document.payload = e.validate.document.payload := by
  obtain ⟨d, e, told, told', hd, he, halike, -⟩ :=
    validate_anyDelivery (namelessRules [namelessHost, namelessZone])
      (namelessRules [namelessZone, namelessHost]) rfl rfl rfl rfl
      (p := ⟨[namelessRule "b" "host" none, namelessRule "a" "zone" (some 0)], none⟩)
      (q := ⟨[namelessRule "a" "zone" (some 0), namelessRule "b" "host" none], none⟩)
      rfl rfl rfl (List.Perm.swap _ _ _) (by decide) .default
  refine ⟨d, e, told, told', hd, he, ?_, halike.outcome, halike.payload.trans halike.payload'.symm⟩
  cases hd
  cbv

end RuleDocument

end RuleIntake
