import Mathlib
import RuleIntake.Proofs.PatternLimits
import RuleIntake.Proofs.Revalidation

/-!
# Documents under wider limits

What compiles within limits compiles to the same within wider ones. So an inspection that comes
through by one compiler goes the same way by the other and leaves the same matchers, and a document
that can be used under a configuration can be used under a wider one. Only previews may differ, and
whether what is told of matchers can be told.
-/

namespace RuleIntake

/-- The limits on patterns are no narrower in another configuration. All else in it may differ. -/
structure Config.IsWithin (c wider : Config) : Prop where
  size : c.regexSizeLimit ≤ wider.regexSizeLimit
  nesting : c.nestLimit ≤ wider.nestLimit

lemma Config.IsWithin.compile {c wider : Config} (h : c.IsWithin wider) {p : String}
    {regex : Regex} (hp : c.compile p = .ok regex) : wider.compile p = .ok regex :=
  Pattern.compile_wider h.size h.nesting hp

/-! ### Caches -/

namespace MatcherCache

variable {cache : MatcherCache} {config : Config}

/-- The cache with the compiler and the previews of a configuration. -/
def under (cache : MatcherCache) (config : Config) : MatcherCache :=
  { cache with compile := config.compile, previewLength := config.logPreviewLength }

/-- What the compiler of a cache compiles, a configuration compiles to the same. -/
def CompilesWithin (cache : MatcherCache) (config : Config) : Prop :=
  ∀ p regex, cache.compile p = .ok regex → config.compile p = .ok regex

lemma Grows.compilesWithin {later : MatcherCache} (h : later.Grows cache)
    (hcache : cache.CompilesWithin config) : later.CompilesWithin config := by
  intro p regex hregex
  rw [h.compile] at hregex
  exact hcache p regex hregex

lemma getOrCompile_under (h : cache.CompilesWithin config) {p : String} {m : Matcher}
    (hm : (cache.getOrCompile p).1 = .ok m) :
    (cache.under config).getOrCompile p = (.ok m, (cache.getOrCompile p).2.under config) := by
  have hget : (cache.under config).get? p = cache.get? p := rfl
  rcases cache.getOrCompile_cases p with ⟨kept, hkept, hfirst⟩ | ⟨fault, -, -, hfirst⟩ |
    ⟨regex, hnone, hregex, hfirst⟩ <;> rw [hfirst] at hm ⊢ <;> cases hm
  · rw [getOrCompile, hget, hkept]
  · rcases (cache.under config).getOrCompile_cases p with ⟨kept, hkept, -⟩ |
      ⟨fault, -, hfault, -⟩ | ⟨regex', -, hregex', hsecond⟩
    · rw [hget, hnone] at hkept
      cases hkept
    · cases (h p regex hregex).symm.trans hfault
    · cases (h p regex hregex).symm.trans hregex'
      rw [hsecond]
      rfl

end MatcherCache

/-! ### Inspections -/

namespace Inspection

variable {cache : MatcherCache} {config : Config}

lemma entry_under (h : cache.CompilesWithin config) {e : String × MatchEntry}
    (hok : (entry e cache).outcome = .ok ()) :
    (entry e (cache.under config)).outcome = .ok () ∧
      (entry e (cache.under config)).cache = (entry e cache).cache.under config := by
  rcases entry_cases e cache with ⟨-, hentry⟩ | ⟨hneeds, hname, hentry⟩ |
    ⟨hneeds, hname, hentry⟩ <;> rw [hentry] at hok ⊢
  · cases hok
  · have hunder : entry e (cache.under config) = pattern e.1 e.2.value (cache.under config) := by
      rcases entry_cases e (cache.under config) with ⟨hname', -⟩ | ⟨-, -, hunder⟩ | ⟨hneeds', -⟩
      · exact absurd hname' hname
      · exact hunder
      · exact absurd hneeds hneeds'
    rw [hunder]
    rcases pattern_cases e.1 e.2.value cache with ⟨m, hm, hp⟩ | ⟨fault, -, hp⟩ <;>
      rw [hp] at hok ⊢
    · rw [pattern, MatcherCache.getOrCompile_under h hm]
      exact ⟨rfl, rfl⟩
    · cases hok
  · rcases entry_cases e (cache.under config) with ⟨hname', -⟩ | ⟨hneeds', -⟩ | ⟨-, -, hunder⟩
    · exact absurd hname' hname
    · exact absurd hneeds' hneeds
    · rw [hunder]
      exact ⟨rfl, rfl⟩

/-- A walk that comes through goes the same way where all that it compiled compiles to the same. -/
theorem entries_under (h : cache.CompilesWithin config) {es : List (String × MatchEntry)}
    (hok : (entries es cache).outcome = .ok ()) :
    (entries es (cache.under config)).outcome = .ok () ∧
      (entries es (cache.under config)).cache = (entries es cache).cache.under config := by
  unfold entries at hok ⊢
  induction es generalizing cache with
  | nil => exact ⟨rfl, rfl⟩
  | cons e es ih =>
    rw [each] at hok ⊢
    obtain ⟨hfirst, hrest⟩ := andThen_outcome_eq_ok.mp hok
    obtain ⟨houtcome, hcache⟩ := entry_under h hfirst
    have hlater := (entry_grows e cache).compilesWithin h
    rw [each, andThen_of_ok hfirst, andThen_of_ok houtcome, hcache]
    exact ih hlater hrest

lemma payload_under (h : cache.CompilesWithin config) {kind : RuleKind} {p : Payload}
    (hok : (payload kind p cache).outcome = .ok ()) :
    (payload kind p (cache.under config)).outcome = .ok () ∧
      (payload kind p (cache.under config)).cache = (payload kind p cache).cache.under config := by
  obtain ⟨hcache, houtcome⟩ := walks_payload (Payload.kind_of_inspect hok) cache
  obtain ⟨hcache', houtcome'⟩ := walks_payload (Payload.kind_of_inspect hok) (cache.under config)
  rw [hcache', houtcome', hcache]
  exact entries_under h (houtcome.symm.trans hok)

end Inspection

/-! ### Documents -/

namespace RuleDocument

variable {d : RuleDocument} {config : Config} {kind : RuleKind}

/-- The document with the compiler and the previews of a configuration. -/
def under (d : RuleDocument) (config : Config) : RuleDocument :=
  { d with cache := d.cache.under config }

lemma inspect_under (h : d.cache.CompilesWithin config)
    (hok : (d.inspect kind).2.outcome = .ok ()) :
    ((d.under config).inspect kind).2.outcome = .ok () ∧
      ((d.under config).inspect kind).2.cache = (d.inspect kind).2.cache.under config := by
  have hunder : (d.under config).content = d.content := rfl
  rcases hcontent : d.content with e | _ | p
  · rw [inspect_of_error hcontent] at hok
    cases hok
  · rw [inspect_of_none hcontent, inspect_of_none (hunder.trans hcontent)]
    exact ⟨rfl, rfl⟩
  · rw [inspect_of_some hcontent] at hok ⊢
    rw [inspect_of_some (hunder.trans hcontent)]
    exact Inspection.payload_under h hok

/-- A validation that comes through leaves the same document where all that it compiled compiles to
the same, but for what it compiles and shows from then on. -/
theorem validate_under (hkind : d.kind = some kind) (h : d.cache.CompilesWithin config)
    (hok : d.validate.outcome = .ok ()) :
    (d.under config).validate.outcome = .ok () ∧
      (d.under config).validate.document = d.validate.document.under config := by
  have hkind' : (d.under config).kind = some kind := hkind
  rw [validate_outcome hkind] at hok
  obtain ⟨houtcome, hcache⟩ := inspect_under h hok
  refine ⟨(validate_outcome hkind').trans houtcome, ?_⟩
  rw [validate_document hkind, validate_document hkind', houtcome, hcache, hok, inspect_content,
    inspect_content]
  rfl

/-- A document that can be used was made of a raw one whose rules come through. -/
lemma exists_of_build_of_isUsable {raw : Option RawDocument} {events : List Event}
    (hbuild : build raw config = .ok (d, events)) (husable : d.isUsable = true) :
    ∃ document kind, raw = some document ∧ document.documentType.ruleKind? = some kind ∧
      let made := (ofRaw document kind config).1
      made.validate.outcome = .ok () ∧ d = made.validate.document := by
  rw [build] at hbuild
  cases hconstruct : construct raw config with
  | error fault =>
    rw [hconstruct] at hbuild
    cases hbuild
  | ok first =>
    obtain ⟨made, told⟩ := first
    rw [hconstruct] at hbuild
    cases hbuild
    rcases construct_cases hconstruct with ⟨-, rfl⟩ | ⟨document, kind, rfl, hkind, rfl⟩
    · cases husable
    · exact ⟨document, kind, rfl, hkind, (isUsable_validate rfl).mp husable, rfl⟩

/-- Whatever compiles under a configuration compiles under one with wider limits, and matches the
same texts. So a document that can be used under the one can be used under the other, with the same
rules and matchers. It is published unless somebody listens to what happens to its patterns and
previews have become too long. -/
theorem build_wider (c wider : Config) (hwithin : c.IsWithin wider) :
    (∀ p regex, c.compile p = .ok regex →
      ∃ regex', wider.compile p = .ok regex' ∧
        ∀ text, regex'.isMatch text = regex.isMatch text) ∧
    ∀ raw d events, build raw c = .ok (d, events) → d.isUsable = true →
      ∃ d' events', build raw wider = .ok (d', events') ∧
        d'.isUsable = true ∧ d'.payload = d.payload ∧ d'.revision = d.revision ∧
        d'.cache.patterns = d.cache.patterns ∧
        (∀ q, d'.cache.get? q = d.cache.get? q) ∧
        ((∀ event ∈ events', event.isTellable = true) ↔
          wider.logPreviewLength ≤ Event.maxPreviewLength ∨ d.cache.patterns = []) ∧
        ∀ level, ComesTo (publish level raw wider) d' (wider.CanTell level d') := by
  refine ⟨fun p regex hp => ⟨regex, hwithin.compile hp, fun _ => rfl⟩, ?_⟩
  intro raw d events hbuild husable
  obtain ⟨document, kind, rfl, hkind, hok, rfl⟩ := exists_of_build_of_isUsable hbuild husable
  let made := (ofRaw document kind c).1
  have hcache : made.cache.CompilesWithin wider := fun _ _ => hwithin.compile
  have hunder : (ofRaw document kind wider).1 = made.under wider := rfl
  obtain ⟨hok', hsame⟩ := validate_under rfl hcache hok
  rw [← hunder] at hok' hsame
  obtain ⟨events', hbuild', htellable⟩ := build_of_ruleKind? hkind wider
  refine ⟨_, events', hbuild', (isUsable_validate rfl).mpr hok', ?_, ?_, ?_, ?_, ?_,
    comesTo_publish hkind wider⟩
  · rw [hsame]
    rfl
  · rw [hsame]
    rfl
  · rw [hsame]
    rfl
  · rw [hsame]
    intro q
    rfl
  · rw [htellable, hsame]
    rfl

/-- Limits that can be used where hardly any nesting is allowed are the same where more is, and are
published there. -/
theorem build_wider_limitsDocument :
    let flat : Config := { Config.default with nestLimit := 1 }
    flat.IsWithin .default ∧
      ∃ d events, build (some (limitsDocument "ab")) flat = .ok (d, events) ∧ d.isUsable = true ∧
        ∃ d' told, publish .debug (some (limitsDocument "ab")) .default = .ok (d', told) ∧
          d'.isUsable = true ∧ d'.payload = d.payload ∧ d'.cache.patterns = ["cd", "ab"] := by
  intro flat
  have hwithin : flat.IsWithin .default := ⟨le_rfl, by decide⟩
  let d := (ofRaw (limitsDocument "ab") .rateLimiting flat).1.validate.document
  have husable : d.isUsable = true := by cbv
  have hpatterns : d.cache.patterns = ["cd", "ab"] := by cbv
  have hkind : (limitsDocument "ab").documentType.ruleKind? = some .rateLimiting := rfl
  obtain ⟨events, hbuild, -⟩ := build_of_ruleKind? hkind flat
  obtain ⟨-, hdocuments⟩ := build_wider flat .default hwithin
  obtain ⟨d', events', -, husable', hpayload, -, hsame, -, -, hpublish⟩ :=
    hdocuments _ d events hbuild husable
  have hshort : Config.default.CanTell .debug d' := .inr (.inl (by decide))
  obtain ⟨told, htold⟩ := (hpublish .debug).published hshort
  exact ⟨hwithin, d, events, hbuild, husable, d', told, htold, husable', hpayload,
    hsame.trans hpatterns⟩

/-- The same limits are lost where only previews have become longer. -/
theorem build_longPreviews :
    Config.default.IsWithin .longPreviews ∧
      (∃ d events, build (some (limitsDocument "ab")) .default = .ok (d, events) ∧
        d.isUsable = true) ∧
      publish .debug (some (limitsDocument "ab")) .longPreviews =
        .error (.brokenOff [.constructed ⟨"Production", "order"⟩ .rateLimiting "7"]) := by
  have hkind : (limitsDocument "ab").documentType.ruleKind? = some .rateLimiting := rfl
  obtain ⟨events, hbuild, -⟩ := build_of_ruleKind? hkind .default
  exact ⟨⟨le_rfl, le_rfl⟩, ⟨_, events, hbuild, by cbv⟩, by cbv⟩

end RuleDocument

end RuleIntake
