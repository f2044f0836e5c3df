import Mathlib.Tactic.Common
import RuleIntake.Proofs.CacheSteps
import RuleIntake.Rule.Inspection

/-!
# The walk of an inspection

However rules are nested, their inspection walks through the match entries in them one after the
other, and stops at the first one that is not sound. If it comes through, exactly the patterns of
the entries have been added to the cache.
-/

namespace RuleIntake

namespace MatchEntry

def LacksName (e : MatchEntry) : Prop :=
  e.value ≠ wildcard ∧ e.valueKind = .variableName ∧ e.value = ""

def NeedsMatcher (e : MatchEntry) : Prop :=
  e.value ≠ wildcard ∧ e.kind = .regex ∧ e.valueKind = .text

lemma LacksName.not_needsMatcher {e : MatchEntry} (h : e.LacksName) : ¬e.NeedsMatcher := by
  rintro ⟨-, -, htext⟩
  rw [h.2.1] at htext
  cases htext

/-- The entry can be used with a cache. -/
def IsSoundFor (cache : MatcherCache) (e : MatchEntry) : Prop :=
  ¬e.LacksName ∧ (e.NeedsMatcher → cache.Serves e.value)

end MatchEntry

lemma MatcherCache.Grows.isSoundFor_iff {later cache : MatcherCache} (h : later.Grows cache)
    (e : MatchEntry) : e.IsSoundFor later ↔ e.IsSoundFor cache := by
  rw [MatchEntry.IsSoundFor, MatchEntry.IsSoundFor, h.serves_iff]

namespace Inspection

variable {α : Type}

/-! ### Entries -/

/-- An entry is refused for a missing name, looked up, or passed over. -/
lemma entry_cases (e : String × MatchEntry) (cache : MatcherCache) :
    (e.2.LacksName ∧ entry e cache = ⟨cache, [], .error (.malformedReference e.1)⟩) ∨
      (e.2.NeedsMatcher ∧ ¬e.2.LacksName ∧ entry e cache = pattern e.1 e.2.value cache) ∨
      (¬e.2.NeedsMatcher ∧ ¬e.2.LacksName ∧ entry e cache = clean cache) := by
  obtain ⟨field, kind, valueKind, value⟩ := e
  simp only [entry, MatchEntry.LacksName, MatchEntry.NeedsMatcher, MatchEntry.isWildcard,
    MatchEntry.isPattern, beq_iff_eq, Bool.and_eq_true, String.isEmpty_iff]
  by_cases hw : value = MatchEntry.wildcard
  · right; right
    exact ⟨fun h => h.1 hw, fun h => h.1 hw, if_pos hw⟩
  rw [if_neg hw]
  by_cases hv : valueKind = .variableName ∧ value = ""
  · left
    exact ⟨⟨hw, hv⟩, if_pos hv⟩
  rw [if_neg hv]
  by_cases hp : kind = .regex ∧ valueKind = .text
  · right; left
    exact ⟨⟨hw, hp⟩, fun h => hv h.2, if_pos hp⟩
  · right; right
    exact ⟨fun h => hp h.2, fun h => hv h.2, if_neg hp⟩

lemma pattern_cases (field p : String) (cache : MatcherCache) :
    (∃ m, (cache.getOrCompile p).1 = .ok m ∧ pattern field p cache =
        ⟨(cache.getOrCompile p).2,
          [.matcherReady field p (cache.getOrCompile p).2.previewLength], .ok ()⟩) ∨
      ∃ fault, (cache.getOrCompile p).1 = .error fault ∧ pattern field p cache =
        ⟨(cache.getOrCompile p).2, [], .error (.invalidPattern p fault)⟩ := by
  unfold pattern
  obtain ⟨result, later⟩ := cache.getOrCompile p
  cases result with
  | ok m => exact .inl ⟨m, rfl, rfl⟩
  | error fault => exact .inr ⟨fault, rfl, rfl⟩

lemma entry_grows (e : String × MatchEntry) (cache : MatcherCache) :
    (entry e cache).cache.Grows cache := by
  rcases entry_cases e cache with ⟨-, h⟩ | ⟨-, -, h⟩ | ⟨-, -, h⟩ <;> rw [h]
  · exact .refl cache
  · rcases pattern_cases e.1 e.2.value cache with ⟨m, -, hp⟩ | ⟨fault, -, hp⟩ <;> rw [hp] <;>
      exact cache.getOrCompile_grows e.2.value
  · exact .refl cache

lemma entry_outcome {e : String × MatchEntry} {cache : MatcherCache} :
    (entry e cache).outcome = .ok () ↔ e.2.IsSoundFor cache := by
  rw [MatchEntry.IsSoundFor]
  rcases entry_cases e cache with ⟨hname, h⟩ | ⟨hneeds, hname, h⟩ | ⟨hneeds, hname, h⟩ <;> rw [h]
  · simp [hname]
  · simp only [hname, hneeds, not_false_iff, true_and, true_imp_iff,
      ← MatcherCache.exists_getOrCompile_eq_ok]
    rcases pattern_cases e.1 e.2.value cache with ⟨m, hm, hp⟩ | ⟨fault, hfault, hp⟩ <;> rw [hp]
    · simp [hm]
    · simp [hfault]
  · simp [hname, hneeds, clean]

lemma entry_patterns {e : String × MatchEntry} {cache : MatcherCache}
    (hok : (entry e cache).outcome = .ok ()) (p : String) :
    p ∈ (entry e cache).cache.patterns ↔
      p ∈ cache.patterns ∨ e.2.NeedsMatcher ∧ e.2.value = p := by
  rcases entry_cases e cache with ⟨hname, h⟩ | ⟨hneeds, hname, h⟩ | ⟨hneeds, hname, h⟩ <;>
    rw [h] at hok ⊢
  · cases hok
  · rcases pattern_cases e.1 e.2.value cache with ⟨m, hm, hp⟩ | ⟨fault, hfault, hp⟩ <;>
      rw [hp] at hok ⊢
    · simp only [MatcherCache.mem_patterns_getOrCompile hm, hneeds, true_and]
    · cases hok
  · simp only [clean, hneeds, false_and, or_false]

/-! ### Walks -/

lemma andThen_of_ok {first : Inspection} (h : first.outcome = .ok ())
    (next : MatcherCache → Inspection) :
    first.andThen next = ⟨(next first.cache).cache, first.events ++ (next first.cache).events,
      (next first.cache).outcome⟩ := by
  rw [andThen, h]

lemma andThen_of_error {first : Inspection} {e : RuleError} (h : first.outcome = .error e)
    (next : MatcherCache → Inspection) : first.andThen next = first := by
  rw [andThen, h]

/-- An inspection in two parts comes through exactly if both of them do. -/
lemma andThen_outcome_eq_ok {first : Inspection} {next : MatcherCache → Inspection} :
    (first.andThen next).outcome = .ok () ↔
      first.outcome = .ok () ∧ (next first.cache).outcome = .ok () := by
  cases h : first.outcome with
  | error fault => simp [andThen_of_error h, h]
  | ok _ => simp [andThen_of_ok h]

lemma entries_grows (es : List (String × MatchEntry)) (cache : MatcherCache) :
    (entries es cache).cache.Grows cache := by
  unfold entries
  induction es generalizing cache with
  | nil => exact .refl cache
  | cons e es ih =>
    rw [each]
    cases h : (entry e cache).outcome with
    | error fault =>
      rw [andThen_of_error h]
      exact entry_grows e cache
    | ok _ =>
      have hfirst := entry_grows e cache
      have hrest := ih (entry e cache).cache
      rw [andThen_of_ok h]
      exact hrest.trans hfirst

/-- A walk comes through exactly if all entries are sound for the cache it starts with. -/
theorem entries_outcome (es : List (String × MatchEntry)) (cache : MatcherCache) :
    (entries es cache).outcome = .ok () ↔ ∀ e ∈ es, e.2.IsSoundFor cache := by
  unfold entries
  induction es generalizing cache with
  | nil => simp [each, clean]
  | cons e es ih =>
    -- the entries behind are sound for the cache as it is then just if they were before
    rw [each, List.forall_mem_cons, andThen_outcome_eq_ok, entry_outcome, ih]
    simp only [(entry_grows e cache).isSoundFor_iff]

/-- A walk that comes through adds exactly the patterns of its entries. -/
theorem entries_patterns {es : List (String × MatchEntry)} {cache : MatcherCache}
    (hok : (entries es cache).outcome = .ok ()) (p : String) :
    p ∈ (entries es cache).cache.patterns ↔
      p ∈ cache.patterns ∨ ∃ e ∈ es, e.2.NeedsMatcher ∧ e.2.value = p := by
  unfold entries at hok ⊢
  induction es generalizing cache with
  | nil => simp [each, clean]
  | cons e es ih =>
    rw [each] at hok ⊢
    obtain ⟨hfirst, hrest⟩ := andThen_outcome_eq_ok.mp hok
    rw [andThen_of_ok hfirst, ih hrest, entry_patterns hfirst]
    simp [or_assoc]

lemma clean_andThen (cache : MatcherCache) (next : MatcherCache → Inspection) :
    (clean cache).andThen next = next cache := by
  rw [andThen_of_ok rfl]
  rfl

lemma andThen_assoc (first : Inspection) (second third : MatcherCache → Inspection) :
    (first.andThen second).andThen third =
      first.andThen fun cache => (second cache).andThen third := by
  cases h : first.outcome with
  | error e => rw [andThen_of_error h, andThen_of_error h, andThen_of_error h]
  | ok _ =>
    rw [andThen_of_ok h, andThen_of_ok h]
    cases h' : (second first.cache).outcome with
    | error e => rw [andThen_of_error rfl, andThen_of_error h', h']
    | ok _ => rw [andThen_of_ok rfl, andThen_of_ok h', List.append_assoc]

lemma each_append (inspect : α → MatcherCache → Inspection) (as bs : List α)
    (cache : MatcherCache) :
    each inspect (as ++ bs) cache = (each inspect as cache).andThen (each inspect bs) := by
  induction as generalizing cache with
  | nil => rw [List.nil_append, each, clean_andThen]
  | cons a as ih =>
    rw [List.cons_append, each, each, andThen_assoc]
    congr 1
    funext later
    exact ih later

/-! ### Where a walk stops -/

/-- An inspection of things one after the other that stops does so at one of them, and all before it
come through. -/
lemma exists_of_each_eq_error {inspect : α → MatcherCache → Inspection} {as : List α}
    {cache : MatcherCache} {fault : RuleError}
    (h : (each inspect as cache).outcome = .error fault) :
    ∃ before a after, as = before ++ a :: after ∧ (each inspect before cache).outcome = .ok () ∧
      (inspect a (each inspect before cache).cache).outcome = .error fault := by
  induction as generalizing cache with
  | nil => cases h
  | cons a as ih =>
    rw [each] at h
    cases ha : (inspect a cache).outcome with
    | error first =>
      rw [andThen_of_error ha, ha] at h
      cases h
      exact ⟨[], a, as, rfl, rfl, ha⟩
    | ok _ =>
      rw [andThen_of_ok ha] at h
      obtain ⟨before, b, after, rfl, hbefore, hb⟩ := ih h
      refine ⟨a :: before, b, after, rfl, ?_, ?_⟩ <;> rw [each, andThen_of_ok ha]
      · exact hbefore
      · exact hb

/-- What is behind the place where an inspection stops is not looked at. -/
lemma each_of_stop {inspect : α → MatcherCache → Inspection} {before : List α} {a : α}
    {cache : MatcherCache} {fault : RuleError}
    (hbefore : (each inspect before cache).outcome = .ok ())
    (ha : (inspect a (each inspect before cache).cache).outcome = .error fault) (after : List α) :
    (each inspect (before ++ a :: after) cache).cache =
        (inspect a (each inspect before cache).cache).cache ∧
      (each inspect (before ++ a :: after) cache).outcome = .error fault := by
  rw [each_append, andThen_of_ok hbefore, each, andThen_of_error ha]
  exact ⟨rfl, ha⟩

/-- An entry is at fault for the name of a variable or for a pattern, and so is a walk. -/
lemma entries_fault {es : List (String × MatchEntry)} {cache : MatcherCache}
    {fault : RuleError} (h : (entries es cache).outcome = .error fault) :
    (∃ field, fault = .malformedReference field) ∨ ∃ p cause, fault = .invalidPattern p cause := by
  obtain ⟨before, e, -, -, -, he⟩ := exists_of_each_eq_error h
  rcases entry_cases e (each entry before cache).cache with ⟨-, hentry⟩ | ⟨-, -, hentry⟩ |
    ⟨-, -, hentry⟩ <;> rw [hentry] at he
  · cases he
    exact .inl ⟨_, rfl⟩
  · rcases pattern_cases e.1 e.2.value (each entry before cache).cache with ⟨m, -, hp⟩ |
      ⟨cause, -, hp⟩ <;> rw [hp] at he <;> cases he
    exact .inr ⟨_, _, rfl⟩
  · cases he

/-! ### Walks through entries -/

/-- An inspection that does to a cache what a walk through entries does, whatever it tells. -/
def Walks (es : List (String × MatchEntry)) (inspect : MatcherCache → Inspection) : Prop :=
  ∀ cache, (inspect cache).cache = (entries es cache).cache ∧
    (inspect cache).outcome = (entries es cache).outcome

namespace Walks

variable {es fs : List (String × MatchEntry)} {f g : MatcherCache → Inspection}

lemma reporting (h : Walks es f) (event : RuleError → Event) :
    Walks es fun cache => (f cache).reporting event := by
  intro cache
  dsimp only [Inspection.reporting]
  split
  · exact h cache
  · exact h cache

lemma andThen (h : Walks es f) (h' : Walks fs g) :
    Walks (es ++ fs) fun cache => (f cache).andThen g := by
  intro cache
  obtain ⟨hcache, houtcome⟩ := h cache
  rw [entries, each_append]
  change ((f cache).andThen g).cache = ((entries es cache).andThen (entries fs)).cache ∧
    ((f cache).andThen g).outcome = ((entries es cache).andThen (entries fs)).outcome
  cases ho : (entries es cache).outcome with
  | error e =>
    rw [andThen_of_error ho, andThen_of_error (houtcome.trans ho)]
    exact h cache
  | ok _ =>
    rw [andThen_of_ok ho, andThen_of_ok (houtcome.trans ho), hcache]
    exact h' _

lemma each {inspect : α → MatcherCache → Inspection} {es : α → List (String × MatchEntry)}
    (h : ∀ a, Walks (es a) (inspect a)) (as : List α) :
    Walks (as.flatMap es) (Inspection.each inspect as) := by
  induction as with
  | nil =>
    intro cache
    exact ⟨rfl, rfl⟩
  | cons a as ih =>
    have hfirst := h a
    exact hfirst.andThen ih

end Walks

end Inspection

/-! ### Rules -/

/-- The match entries of a route by field: those of its sources, then those of its destinations. -/
def Route.maps (r : Route) : List MatchMetadata :=
  r.sources.map (·.metadata) ++ r.destinations.map (·.metadata)

/-- The match entries of rules by field, in the order in which they are inspected. -/
def Payload.maps : Payload → List MatchMetadata
  | .routing r => (r.inbounds ++ r.outbounds).flatMap Route.maps
  | .rateLimiting r => r.rules.map (·.labels)

def Payload.entries (p : Payload) : List (String × MatchEntry) := p.maps.flatMap (·.entries)

namespace Inspection

lemma walks_metadata (m : MatchMetadata) : Walks m.entries (metadata m) := fun _ => ⟨rfl, rfl⟩

lemma walks_route (direction : Direction) (r : Route × Nat) :
    Walks (r.1.maps.flatMap (·.entries)) (route direction r) := by
  have hsource (s : Source) := (walks_metadata s.metadata).reporting
    (.routeInvalid direction r.2 .source)
  have hdestination (d : Destination) := (walks_metadata d.metadata).reporting
    (.routeInvalid direction r.2 .destination)
  rw [Route.maps, List.flatMap_append, List.flatMap_map, List.flatMap_map]
  exact (Walks.each hsource r.1.sources).andThen (Walks.each hdestination r.1.destinations)

lemma walks_routes (direction : Direction) (rs : List Route) :
    Walks ((rs.flatMap Route.maps).flatMap (·.entries)) (routes direction rs) := by
  have hmaps : (rs.flatMap Route.maps).flatMap (·.entries) =
      rs.zipIdx.flatMap fun r => r.1.maps.flatMap (·.entries) := by
    rw [List.flatMap_assoc,
      ← List.flatMap_map Prod.fst (fun r : Route => r.maps.flatMap (·.entries)),
      List.zipIdx_map_fst]
  rw [hmaps]
  exact Walks.each (walks_route direction) rs.zipIdx

/-- Rules are inspected as what they are by a walk through their entries. -/
lemma walks_payload {kind : RuleKind} {p : Payload} (h : p.kind = kind) :
    Walks p.entries (payload kind p) := by
  subst h
  cases p with
  | routing r =>
    have hinbounds := walks_routes .inbound r.inbounds
    have houtbounds := walks_routes .outbound r.outbounds
    rw [Payload.entries, Payload.maps, List.flatMap_append, List.flatMap_append]
    exact hinbounds.andThen houtbounds
  | rateLimiting r =>
    have hlabels (rule : RateLimitRule) := (walks_metadata rule.labels).reporting
      (.labelsInvalid rule.id)
    rw [Payload.entries, Payload.maps, List.flatMap_map]
    exact Walks.each hlabels r.rules

/-! ### What is told -/

/-- An inspection that tells of every matcher that it makes sure of. Previews are as long as the
cache says. -/
structure TellsMatchers (inspect : MatcherCache → Inspection) : Prop where
  previewLength : ∀ cache, (inspect cache).cache.previewLength = cache.previewLength
  told : ∀ cache field p n, .matcherReady field p n ∈ (inspect cache).events →
    n = cache.previewLength
  patterns : ∀ cache p, p ∈ (inspect cache).cache.patterns ↔
    p ∈ cache.patterns ∨ ∃ field n, .matcherReady field p n ∈ (inspect cache).events

namespace TellsMatchers

variable {f g : MatcherCache → Inspection}

/-- An inspection that tells of no matcher and leaves the cache alone. -/
lemma of_silent (hcache : ∀ cache, (f cache).cache = cache)
    (hevents : ∀ cache, (f cache).events = []) : TellsMatchers f where
  previewLength cache := by rw [hcache]
  told cache field p n h := by
    rw [hevents] at h
    cases h
  patterns cache p := by simp [hcache, hevents]

lemma reporting (h : TellsMatchers f) (event : RuleError → Event)
    (hevent : ∀ e field p n, event e ≠ .matcherReady field p n) :
    TellsMatchers fun cache => (f cache).reporting event := by
  have hcache (cache : MatcherCache) : ((f cache).reporting event).cache = (f cache).cache := by
    rw [Inspection.reporting]
    split <;> rfl
  have hevents (cache : MatcherCache) (field p : String) (n : Nat) :
      .matcherReady field p n ∈ ((f cache).reporting event).events ↔
        .matcherReady field p n ∈ (f cache).events := by
    rw [Inspection.reporting]
    split
    · next e _ => simp [(hevent e field p n).symm]
    · rfl
  constructor
  · intro cache
    rw [hcache, h.previewLength]
  · intro cache field p n hmem
    exact h.told cache field p n ((hevents cache field p n).mp hmem)
  · intro cache p
    simp only [hcache, hevents, h.patterns]

lemma andThen (h : TellsMatchers f) (h' : TellsMatchers g) :
    TellsMatchers fun cache => (f cache).andThen g := by
  constructor
  · intro cache
    cases ho : (f cache).outcome with
    | error e => rw [andThen_of_error ho, h.previewLength]
    | ok _ => rw [andThen_of_ok ho, h'.previewLength, h.previewLength]
  · intro cache field p n hmem
    cases ho : (f cache).outcome with
    | error e =>
      rw [andThen_of_error ho] at hmem
      exact h.told cache field p n hmem
    | ok _ =>
      rw [andThen_of_ok ho, List.mem_append] at hmem
      rcases hmem with hmem | hmem
      · exact h.told cache field p n hmem
      · rw [h'.told _ field p n hmem, h.previewLength]
  · intro cache p
    cases ho : (f cache).outcome with
    | error e => rw [andThen_of_error ho, h.patterns]
    | ok _ =>
      rw [andThen_of_ok ho, h'.patterns, h.patterns]
      simp only [List.mem_append, exists_or, or_assoc]

lemma each {inspect : α → MatcherCache → Inspection} (h : ∀ a, TellsMatchers (inspect a))
    (as : List α) : TellsMatchers (Inspection.each inspect as) := by
  induction as with
  | nil => exact of_silent (fun _ => rfl) fun _ => rfl
  | cons a as ih =>
    have hfirst := h a
    exact hfirst.andThen ih

end TellsMatchers

lemma tellsMatchers_pattern (field p : String) : TellsMatchers (pattern field p) where
  previewLength cache := by
    have hgrows := cache.getOrCompile_grows p
    rcases pattern_cases field p cache with ⟨m, -, h⟩ | ⟨fault, -, h⟩ <;> rw [h] <;>
      exact hgrows.previewLength
  told cache field' p' n hmem := by
    have hgrows := cache.getOrCompile_grows p
    rcases pattern_cases field p cache with ⟨m, -, h⟩ | ⟨fault, -, h⟩ <;> rw [h] at hmem
    · cases List.mem_singleton.mp hmem
      exact hgrows.previewLength
    · cases hmem
  patterns cache q := by
    rcases pattern_cases field p cache with ⟨m, hm, h⟩ | ⟨fault, hfault, h⟩ <;> rw [h]
    · simp [MatcherCache.mem_patterns_getOrCompile hm, eq_comm]
    · simp [MatcherCache.patterns_getOrCompile_of_error hfault]

lemma tellsMatchers_entry (e : String × MatchEntry) : TellsMatchers (entry e) := by
  have hsilent (cache : MatcherCache) (hneeds : ¬e.2.NeedsMatcher) :
      (entry e cache).cache = cache ∧ (entry e cache).events = [] := by
    rcases entry_cases e cache with ⟨-, h⟩ | ⟨hneeds', -, -⟩ | ⟨-, -, h⟩
    · rw [h]
      exact ⟨rfl, rfl⟩
    · exact absurd hneeds' hneeds
    · rw [h]
      exact ⟨rfl, rfl⟩
  by_cases hneeds : e.2.NeedsMatcher
  · have hpattern : entry e = pattern e.1 e.2.value := by
      funext cache
      rcases entry_cases e cache with ⟨hname, -⟩ | ⟨-, -, h⟩ | ⟨hneeds', -, -⟩
      · exact absurd hneeds hname.not_needsMatcher
      · exact h
      · exact absurd hneeds hneeds'
    rw [hpattern]
    exact tellsMatchers_pattern e.1 e.2.value
  · exact .of_silent (fun cache => (hsilent cache hneeds).1) fun cache => (hsilent cache hneeds).2

lemma tellsMatchers_metadata (m : MatchMetadata) : TellsMatchers (metadata m) :=
  TellsMatchers.each tellsMatchers_entry m.entries

lemma tellsMatchers_route (direction : Direction) (r : Route × Nat) :
    TellsMatchers (route direction r) := by
  have hsource (s : Source) := (tellsMatchers_metadata s.metadata).reporting
    (.routeInvalid direction r.2 .source) (by simp)
  have hdestination (d : Destination) := (tellsMatchers_metadata d.metadata).reporting
    (.routeInvalid direction r.2 .destination) (by simp)
  have hsources := TellsMatchers.each hsource r.1.sources
  have hdestinations := TellsMatchers.each hdestination r.1.destinations
  exact hsources.andThen hdestinations

lemma tellsMatchers_payload (kind : RuleKind) (p : Payload) : TellsMatchers (payload kind p) := by
  have hroutes (direction : Direction) (rs : List Route) : TellsMatchers (routes direction rs) :=
    TellsMatchers.each (tellsMatchers_route direction) rs.zipIdx
  match kind, p with
  | .routing, .routing r =>
    exact (hroutes .inbound r.inbounds).andThen (hroutes .outbound r.outbounds)
  | .rateLimiting, .rateLimiting r =>
    have hlabels (rule : RateLimitRule) := (tellsMatchers_metadata rule.labels).reporting
      (.labelsInvalid rule.id) (by simp)
    exact TellsMatchers.each hlabels r.rules
  | .routing, .rateLimiting r => exact .of_silent (fun _ => rfl) fun _ => rfl
  | .rateLimiting, .routing r => exact .of_silent (fun _ => rfl) fun _ => rfl

end Inspection

end RuleIntake
