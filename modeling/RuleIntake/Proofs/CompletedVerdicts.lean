import Mathlib
import RuleIntake.Proofs.InspectionSites
import RuleIntake.Proofs.RuleOrder

/-!
# Verdicts on completed rules

Completing rules does not change whether they are sound. The entries in them stay the same, so that
an inspection comes through before as after and leaves the same matchers, in whatever order the
entries of each map are visited. Routes do not even change places.
-/

namespace RuleIntake

open RateLimitRule (Fills fills_getD)
open MatchEntry

/-! ### Completed routes -/

/-- A destination is another one with its missing fields filled in. -/
structure Destination.Completes (d given : Destination) : Prop where
  weight : Fills 100 given.weight d.weight
  priority : Fills 0 given.priority d.priority
  isolate : Fills false given.isolate d.isolate
  rest : d = { given with weight := d.weight, priority := d.priority, isolate := d.isolate }

/-- A route has the sources of another one, and its destinations with their missing fields filled
in. -/
structure Route.Completes (r given : Route) : Prop where
  sources : r.sources = given.sources
  destinations : List.Forall₂ Destination.Completes r.destinations given.destinations

/-- The routes in both directions are those of other rules, in the same order, with missing fields
filled in. -/
structure Routing.Completes (r given : Routing) : Prop where
  inbounds : List.Forall₂ Route.Completes r.inbounds given.inbounds
  outbounds : List.Forall₂ Route.Completes r.outbounds given.outbounds
  rest : r = { given with inbounds := r.inbounds, outbounds := r.outbounds }

lemma Destination.completes_withDefaults (d : Destination) : d.withDefaults.Completes d where
  weight := fills_getD _ _
  priority := fills_getD _ _
  isolate := fills_getD _ _
  rest := rfl

lemma forall₂_map_self {α : Type} {R : α → α → Prop} {f : α → α} (h : ∀ a, R (f a) a)
    (as : List α) : List.Forall₂ R (as.map f) as := by
  rw [List.forall₂_map_left_iff, List.forall₂_same]
  exact fun a _ => h a

lemma Route.completes_withDefaults (r : Route) : r.withDefaults.Completes r where
  sources := rfl
  destinations := forall₂_map_self Destination.completes_withDefaults r.destinations

lemma Routing.completes_withDefaults (r : Routing) : r.withDefaults.Completes r where
  inbounds := forall₂_map_self Route.completes_withDefaults r.inbounds
  outbounds := forall₂_map_self Route.completes_withDefaults r.outbounds
  rest := rfl

/-! ### Sites of completed rules -/

namespace Route

lemma sites_withDefaults (direction : Direction) (r : Route) (index : Nat) :
    sites direction (r.withDefaults, index) = sites direction (r, index) := by
  simp only [sites, withDefaults, List.map_map]
  rfl

lemma flatMap_sites_withDefaults (direction : Direction) (rs : List Route) :
    (rs.map withDefaults).zipIdx.flatMap (sites direction) =
      rs.zipIdx.flatMap (sites direction) := by
  rw [List.zipIdx_map, List.flatMap_map]
  congr 1
  funext ⟨r, index⟩
  exact sites_withDefaults direction r index

end Route

/-- Completed routes have their maps where they were. -/
lemma Payload.sites_withDefaults_routing (r : Routing) :
    (Payload.routing r.withDefaults).sites = (Payload.routing r).sites := by
  simp only [sites, Routing.withDefaults, Route.flatMap_sites_withDefaults]

lemma Payload.entries_withDefaults_perm (kind : RuleKind) (p : Payload) :
    (p.withDefaults kind).entries.Perm p.entries :=
  (maps_withDefaults_perm kind p).flatMap_right _

/-! ### Verdicts -/

namespace Inspection

variable {p completed : Payload} {cache : MatcherCache}

/-- Two payloads are inspected to the same verdict, the second one being the first one completed. If
they are sound, the same patterns have the same regular expressions then, and the same is told of
them in some order. If they are not, each time an entry of the first payload is named. -/
structure KeepsVerdict (inspect : Payload → MatcherCache → Inspection) (p completed : Payload)
    (cache : MatcherCache) : Prop where
  outcome : (inspect completed cache).outcome = .ok () ↔ (inspect p cache).outcome = .ok ()
  patterns : (inspect p cache).outcome = .ok () → ∀ q,
    q ∈ (inspect completed cache).cache.patterns ↔ q ∈ (inspect p cache).cache.patterns
  regexes : (inspect p cache).outcome = .ok () → ∀ q,
    ((inspect completed cache).cache.get? q).map (·.regex) =
      ((inspect p cache).cache.get? q).map (·.regex)
  told : (inspect p cache).outcome = .ok () →
    (inspect completed cache).events.Perm (inspect p cache).events
  keeps : (inspect completed cache).cache.Extends cache ∧ (inspect p cache).cache.Extends cache
  routing : p.kind = .routing → inspect completed cache = inspect p cache
  named : ∀ fault, (inspect completed cache).outcome = .error fault ∨
    (inspect p cache).outcome = .error fault → ∃ m ∈ p.maps, ∃ e ∈ m.entries, HasFault cache e fault

/-- What walks through the same entries in two orders has one verdict. -/
lemma keepsVerdict_of_tellsReady {inspect : Payload → MatcherCache → Inspection}
    {es others : List (String × MatchEntry)} (h : TellsReady es (inspect p))
    (h' : TellsReady others (inspect completed)) (hp : es.Perm p.entries) (horder : others.Perm es)
    (hrouting : p.kind = .routing → inspect completed cache = inspect p cache) :
    KeepsVerdict inspect p completed cache := by
  obtain ⟨hcache, houtcome⟩ := h.walks cache
  obtain ⟨hcache', houtcome'⟩ := h'.walks cache
  have hgrows := entries_grows es cache
  have hgrows' := entries_grows others cache
  have hiff : (entries others cache).outcome = .ok () ↔ (entries es cache).outcome = .ok () := by
    rw [entries_outcome, entries_outcome]
    simp only [horder.mem_iff]
  have hnamed {fault : RuleError} {fs : List (String × MatchEntry)} (hfs : fs.Perm p.entries)
      (hfault : (entries fs cache).outcome = .error fault) :
      ∃ m ∈ p.maps, ∃ e ∈ m.entries, HasFault cache e fault := by
    obtain ⟨e, he, hfault⟩ := (stoppedBy_of_entries hfault).named
    obtain ⟨m, hm, he⟩ := List.mem_flatMap.mp (hfs.mem_iff.mp he)
    exact ⟨m, hm, e, he, hfault⟩
  refine ⟨?_, ?_, ?_, ?_, ?_, hrouting, ?_⟩
  · rw [houtcome, houtcome']
    exact hiff
  · intro hok q
    rw [houtcome] at hok
    rw [hcache, hcache']
    exact mem_patterns_entries_of_perm horder (hiff.mpr hok) hok q
  · intro hok q
    rw [houtcome] at hok
    rw [hcache, hcache']
    exact hgrows'.map_regex_get?_eq hgrows
      (mem_patterns_entries_of_perm horder (hiff.mpr hok) hok) q
  · intro hok
    have hok' : (inspect completed cache).outcome = .ok () := by
      rw [houtcome', hiff, ← houtcome]
      exact hok
    rw [h.told cache hok, h'.told cache hok', ready, ready]
    exact (horder.filter _).map _
  · rw [hcache, hcache']
    exact ⟨hgrows'.keeps, hgrows.keeps⟩
  · rw [houtcome, houtcome']
    rintro fault (hfault | hfault)
    · exact hnamed (horder.trans hp) hfault
    · exact hnamed hp hfault

lemma keepsVerdict_payloadIn (order : EntryOrder) (p : Payload) (cache : MatcherCache) :
    KeepsVerdict (payloadIn order p.kind) p (p.withDefaults p.kind) cache := by
  have hkind := p.kind_withDefaults p.kind
  have hinspect (q : Payload) (hq : q.kind = p.kind) :
      payloadIn order p.kind q = sites order q.sites := by
    funext cache
    rw [payloadIn, if_pos hq]
  have hp := visited_perm order p
  have hcompleted := visited_perm order (p.withDefaults p.kind)
  have horder := (hcompleted.trans (p.entries_withDefaults_perm p.kind)).trans hp.symm
  have htold := tellsReady_sites order p.sites
  have htold' := tellsReady_sites order (p.withDefaults p.kind).sites
  rw [← hinspect p rfl] at htold
  rw [← hinspect _ hkind] at htold'
  refine keepsVerdict_of_tellsReady htold htold' hp horder ?_
  intro hrouting
  rw [hinspect p rfl, hinspect _ hkind]
  cases p with
  | routing r => exact congrArg (sites order · cache) (Payload.sites_withDefaults_routing r)
  | rateLimiting r => cases hrouting

end Inspection

open Inspection

/-- Rules are sound once they are completed exactly if they were sound before. Completed routes are
the routes that were given, in both directions, with the missing fields of their destinations filled
in; completing them again changes nothing. -/
theorem Payload.withDefaults_keepsVerdict (p : Payload) (cache : MatcherCache) :
    KeepsVerdict (payload p.kind) p (p.withDefaults p.kind) cache ∧
      (∀ order, KeepsVerdict (payloadIn order p.kind) p (p.withDefaults p.kind) cache) ∧
      ∀ r, p = .routing r → ∃ completed : Routing, p.withDefaults p.kind = .routing completed ∧
        completed.Completes r ∧
        (Payload.routing completed).withDefaults .routing = .routing completed := by
  refine ⟨?_, fun order => keepsVerdict_payloadIn order p cache, ?_⟩
  · have hbyName : payloadIn .byName p.kind = payload p.kind := by
      funext q cache
      exact payloadIn_byName p.kind q cache
    rw [← hbyName]
    exact keepsVerdict_payloadIn .byName p cache
  · rintro r rfl
    exact ⟨r.withDefaults, rfl, r.completes_withDefaults,
      congrArg Payload.routing r.withDefaults_withDefaults⟩

/-- The rule that is delivered first is tried last. Both are faulty. -/
def Payload.disorderedFaults : Payload :=
  let rule (id field : String) (e : MatchEntry) : RateLimitRule :=
    { (default : RateLimitRule) with id := id, labels := .ofEntries [(field, e)] }
  .rateLimiting
    ⟨[rule "b" "path" ⟨.regex, .text, "("⟩, rule "a" "zone" ⟨.exact, .variableName, ""⟩], none⟩

/-- Another fault is found once these rules are in order. -/
theorem Payload.disorderedFaults_keepVerdict :
    let completed := disorderedFaults.withDefaults .rateLimiting
    let cache := MatcherCache.ofConfig .default
    (payload .rateLimiting disorderedFaults cache).refusedPattern? = some "(" ∧
      (payload .rateLimiting completed cache).outcome = .error (.malformedReference "zone") ∧
      ∃ m ∈ disorderedFaults.maps, ∃ e ∈ m.entries,
        HasFault cache e (.malformedReference "zone") := by
  intro completed cache
  have hgiven : (payload .rateLimiting disorderedFaults cache).refusedPattern? = some "(" := by cbv
  have hcompleted : (payload .rateLimiting completed cache).outcome =
      .error (.malformedReference "zone") := by cbv
  obtain ⟨hkeeps, -, -⟩ := withDefaults_keepsVerdict disorderedFaults cache
  exact ⟨hgiven, hcompleted, hkeeps.named _ (.inl hcompleted)⟩

end RuleIntake
