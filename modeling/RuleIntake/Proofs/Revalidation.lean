import Mathlib
import RuleIntake.Proofs.DocumentRuns

/-!
# Validating again

Once a validation comes through, the rules of a document are complete and every matcher that they
need is cached. No call takes that away, so that a later validation finds nothing to do.
-/

namespace RuleIntake

/-! ### Served entries -/

/-- The entry can be used with what is in a cache. -/
def MatchEntry.IsServedBy (cache : MatcherCache) (e : MatchEntry) : Prop :=
  ¬e.LacksName ∧ (e.NeedsMatcher → e.value ∈ cache.patterns)

lemma MatcherCache.Extends.isServedBy {later cache : MatcherCache} (h : later.Extends cache)
    {e : MatchEntry} (he : e.IsServedBy cache) : e.IsServedBy later :=
  ⟨he.1, fun hneeds => h.mem_patterns (he.2 hneeds)⟩

namespace Inspection

variable {es : List (String × MatchEntry)} {cache : MatcherCache}

lemma entry_of_served {e : String × MatchEntry} (h : e.2.IsServedBy cache) :
    (entry e cache).cache = cache ∧ (entry e cache).outcome = .ok () := by
  rcases entry_cases e cache with ⟨hname, -⟩ | ⟨hneeds, -, hentry⟩ | ⟨-, -, hentry⟩
  · exact absurd hname h.1
  · obtain ⟨m, hm⟩ := MatcherCache.getOrCompile_of_mem (h.2 hneeds)
    rw [hentry, pattern, hm]
    exact ⟨rfl, rfl⟩
  · rw [hentry]
    exact ⟨rfl, rfl⟩

/-- A walk through served entries finds nothing to do. -/
lemma entries_of_served (h : ∀ e ∈ es, e.2.IsServedBy cache) :
    (entries es cache).cache = cache ∧ (entries es cache).outcome = .ok () := by
  unfold entries
  induction es with
  | nil => exact ⟨rfl, rfl⟩
  | cons e es ih =>
    obtain ⟨hfirst, hrest⟩ := List.forall_mem_cons.mp h
    obtain ⟨hcache, houtcome⟩ := entry_of_served hfirst
    rw [each, andThen_of_ok houtcome, hcache]
    exact ih hrest

/-- A walk that comes through leaves its entries served. -/
lemma served_of_entries (hok : (entries es cache).outcome = .ok ()) :
    ∀ e ∈ es, e.2.IsServedBy (entries es cache).cache := by
  intro e he
  have hsound := (entries_outcome es cache).mp hok e he
  refine ⟨hsound.1, fun hneeds => ?_⟩
  exact (entries_patterns hok _).mpr (.inr ⟨e, he, hneeds, rfl⟩)

end Inspection

/-! ### Ready rules -/

/-- Rules that are complete and can be used with what is in a cache. -/
structure Payload.IsReady (kind : RuleKind) (cache : MatcherCache) (p : Payload) : Prop where
  kind_eq : p.kind = kind
  complete : p.withDefaults kind = p
  served : ∀ e ∈ p.entries, e.2.IsServedBy cache

lemma MatcherCache.Extends.isReady {later cache : MatcherCache} {kind : RuleKind} {p : Payload}
    (h : later.Extends cache) (hp : p.IsReady kind cache) : p.IsReady kind later :=
  ⟨hp.kind_eq, hp.complete, fun e he => h.isServedBy (hp.served e he)⟩

namespace Payload

variable {kind : RuleKind} {cache : MatcherCache} {p : Payload}

lemma IsReady.inspect (h : p.IsReady kind cache) :
    (Inspection.payload kind p cache).cache = cache ∧
      (Inspection.payload kind p cache).outcome = .ok () := by
  obtain ⟨hcache, houtcome⟩ := Inspection.walks_payload h.kind_eq cache
  rw [hcache, houtcome]
  exact Inspection.entries_of_served h.served

/-- Rules are of the kind as which they are inspected if that comes through. -/
lemma kind_of_inspect (h : (Inspection.payload kind p cache).outcome = .ok ()) : p.kind = kind := by
  match kind, p with
  | .routing, .routing r => rfl
  | .rateLimiting, .rateLimiting r => rfl
  | .routing, .rateLimiting r => cases h
  | .rateLimiting, .routing r => cases h

lemma isReady_of_inspect
    (h : (Inspection.payload kind (p.withDefaults kind) cache).outcome = .ok ()) :
    (p.withDefaults kind).IsReady kind
      (Inspection.payload kind (p.withDefaults kind) cache).cache := by
  have hkind := kind_of_inspect h
  obtain ⟨hcache, houtcome⟩ := Inspection.walks_payload hkind cache
  refine ⟨hkind, withDefaults_withDefaults kind p, ?_⟩
  rw [hcache]
  exact Inspection.served_of_entries (houtcome.symm.trans h)

end Payload

/-! ### Ready documents -/

namespace RuleDocument

variable {d : RuleDocument}

/-- The document is valid or holds nothing, and all its rules need is there. -/
structure IsReady (d : RuleDocument) : Prop where
  verdict : ∀ kind, d.kind = some kind → d.verdict = some (.ok ())
  content : ∀ kind, d.kind = some kind →
    ∃ rules, d.content = .ok rules ∧ ∀ p ∈ rules, p.IsReady kind d.cache

/-- A validation that comes through leaves the document ready. -/
lemma isReady_validate (h : d.validate.outcome = .ok ()) : d.validate.document.IsReady := by
  cases hkind : d.kind with
  | none =>
    rw [validate_of_none hkind]
    exact ⟨by rw [hkind]; rintro _ ⟨⟩, by rw [hkind]; rintro _ ⟨⟩⟩
  | some kind =>
    rw [validate_outcome hkind] at h
    rw [validate_document hkind]
    refine ⟨fun _ _ => congrArg some h, ?_⟩
    intro kind' hkind'
    obtain rfl : kind = kind' := Option.some.inj (hkind.symm.trans hkind')
    rcases hcontent : d.content with e | _ | p
    · rw [inspect_of_error hcontent] at h
      cases h
    · rw [inspect_of_none hcontent]
      exact ⟨none, rfl, by rintro p ⟨⟩⟩
    · rw [inspect_of_some hcontent] at h ⊢
      refine ⟨some (p.withDefaults kind), rfl, ?_⟩
      rintro _ ⟨⟩
      exact Payload.isReady_of_inspect h

/-- Validating a ready document changes nothing. -/
lemma IsReady.validate (h : d.IsReady) :
    d.validate.document = d ∧ d.validate.outcome = .ok () := by
  cases hkind : d.kind with
  | none =>
    rw [validate_of_none hkind]
    exact ⟨rfl, rfl⟩
  | some kind =>
    have hverdict := h.verdict kind hkind
    obtain ⟨rules, hcontent, hrules⟩ := h.content kind hkind
    have hinspect : (d.inspect kind).1 = .ok rules ∧ (d.inspect kind).2.cache = d.cache ∧
        (d.inspect kind).2.outcome = .ok () := by
      cases rules with
      | none =>
        rw [inspect_of_none hcontent]
        exact ⟨rfl, rfl, rfl⟩
      | some p =>
        have hp := hrules p rfl
        rw [inspect_of_some hcontent, hp.complete]
        exact ⟨rfl, hp.inspect⟩
    obtain ⟨hsame, hcache, houtcome⟩ := hinspect
    refine ⟨?_, (validate_outcome hkind).trans houtcome⟩
    rw [validate_document hkind, hsame, hcache, houtcome, ← hcontent, ← hverdict]

/-- What a document that is ready keeps while it is called. -/
structure KeepsRules (later first : RuleDocument) : Prop where
  ready : later.IsReady
  kind_eq : later.kind = first.kind
  content_eq : later.content = first.content
  extends_cache : later.cache.Extends first.cache

variable {first later : RuleDocument}

lemma KeepsRules.perform (h : later.KeepsRules first) (call : DocumentCall) :
    (call.perform later).KeepsRules first := by
  cases call with
  | validate =>
    rw [DocumentCall.perform, h.ready.validate.1]
    exact h
  | markFromSnapshot =>
    exact ⟨⟨h.ready.verdict, h.ready.content⟩, h.kind_eq, h.content_eq, h.extends_cache⟩
  | cache call =>
    have hextends : (call.perform later.cache).Extends later.cache :=
      CacheCall.run_extends [call] later.cache
    refine ⟨⟨h.ready.verdict, ?_⟩, h.kind_eq, h.content_eq, hextends.trans h.extends_cache⟩
    intro kind hkind
    obtain ⟨rules, hcontent, hrules⟩ := h.ready.content kind hkind
    exact ⟨rules, hcontent, fun p hp => hextends.isReady (hrules p hp)⟩

end RuleDocument

/-! ### Runs -/

namespace DocumentCall

/-- Once a validation comes through, so does every later one, whatever is called. The document stays
valid if it holds anything; its rules stay as they are, and so do the matchers that are cached. A
later validation changes nothing, its cache and the count of compilations included. -/
theorem run_stays_valid {d : RuleDocument} (hvalid : d.validate.outcome = .ok ())
    (calls : List DocumentCall) :
    let first := d.validate.document
    let later := run calls first
    (∀ outcome ∈ outcomes calls first, outcome = .ok ()) ∧
      later.validate.outcome = .ok () ∧
      (d.isInitialized → later.state = .valid) ∧
      later.payload = first.payload ∧
      (∀ p m, first.cache.get? p = some m → later.cache.get? p = some m) ∧
      later.validate.document = later := by
  intro first later
  have hready : first.IsReady := RuleDocument.isReady_validate hvalid
  have hstart : first.KeepsRules first := ⟨hready, rfl, rfl, .refl _⟩
  have hstep (call : DocumentCall) (d : RuleDocument) (h : d.KeepsRules first) :
      (call.perform d).KeepsRules first := h.perform call
  have hlater : later.KeepsRules first := run_keeps hstep calls hstart
  obtain ⟨hsame, houtcome⟩ := hlater.ready.validate
  refine ⟨?_, houtcome, ?_, ?_, hlater.extends_cache, hsame⟩
  · exact forall_mem_outcomes hstep (fun _ h => h.ready.validate.2) calls hstart
  · intro hinitialized
    obtain ⟨kind, hkind⟩ := Option.isSome_iff_exists.mp hinitialized
    have hkind' : later.kind = some kind := by
      rw [hlater.kind_eq, ← hkind]
      exact d.validate_identity.2.1
    rw [RuleDocument.state, hkind', hlater.ready.verdict kind hkind']
    rfl
  · rw [RuleDocument.payload, RuleDocument.payload, hlater.content_eq]

/-- Another matcher is put for a pattern of the rules, and a pattern that does not compile is looked
up. -/
def disturbing : List DocumentCall :=
  [cache (.put "ab" ⟨7, ⟨"cd", .empty⟩⟩), markFromSnapshot, cache (.getOrCompile "("), validate]

/-- The document stays valid under its first matcher; the two patterns were compiled once each. -/
theorem run_disturbing :
    let d := (RuleDocument.ofRaw (RuleDocument.labelDocument "ab") .rateLimiting .default).1
    let later := run disturbing d.validate.document
    d.validate.outcome = .ok () ∧ later.state = .valid ∧
      (later.cache.get? "ab").map (·.serial) = some 0 ∧ later.cache.compilations = 2 ∧
      later.validate.document = later := by
  intro d later
  have hvalid : d.validate.outcome = .ok () := by cbv
  have hcompilations : later.cache.compilations = 2 := by cbv
  have hserial : (d.validate.document.cache.get? "ab").map (·.serial) = some 0 := by cbv
  obtain ⟨-, -, hstate, -, hcache, hsame⟩ := run_stays_valid hvalid disturbing
  obtain ⟨m, hm, hzero⟩ := Option.map_eq_some_iff.mp hserial
  have hkept : later.cache.get? "ab" = some m := hcache "ab" m hm
  refine ⟨hvalid, hstate rfl, ?_, hcompilations, hsame⟩
  rw [hkept, Option.map_some, hzero]

end DocumentCall

end RuleIntake
