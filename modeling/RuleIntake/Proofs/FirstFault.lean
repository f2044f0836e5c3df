import Mathlib
import RuleIntake.Proofs.EntryFaults

/-!
# The first fault of rules

The inspection of rules visits their maps of match entries one after the other and stops in the
first one that is not sound. The maps before it have their matchers then, it may have some of its
own, and those behind it were not looked at.
-/

namespace RuleIntake

open MatchEntry

/-- A map of match entries, and an order in which its entries are visited. -/
structure Visit where
  map : MatchMetadata
  entries : List (String × MatchEntry)
  perm : entries.Perm map.entries

/-- The visit of the entries in the order of their names. -/
def Visit.byName (m : MatchMetadata) : Visit := ⟨m, m.entries, .refl _⟩

namespace Inspection

variable {α : Type} {cache : MatcherCache} {fault : RuleError} {vs before : List Visit} {v : Visit}

/-- Visits maps one after the other. -/
def visits (vs : List Visit) (cache : MatcherCache) : Inspection :=
  each (fun v => entries v.entries) vs cache

lemma walks_visits (vs : List Visit) : Walks (vs.flatMap (·.entries)) (visits vs) :=
  Walks.each (fun _ _ => ⟨rfl, rfl⟩) vs

/-- Rules are inspected as what they are by visiting their maps, the entries by name. -/
lemma payload_eq_visits (p : Payload) (cache : MatcherCache) :
    (payload p.kind p cache).cache = (visits (p.maps.map .byName) cache).cache ∧
      (payload p.kind p cache).outcome = (visits (p.maps.map .byName) cache).outcome := by
  have hentries : (p.maps.map Visit.byName).flatMap (·.entries) = p.entries := by
    rw [List.flatMap_map]
    rfl
  obtain ⟨hcache, houtcome⟩ := walks_payload rfl cache
  obtain ⟨hcache', houtcome'⟩ := walks_visits (p.maps.map .byName) cache
  rw [hentries] at hcache' houtcome'
  exact ⟨hcache.trans hcache'.symm, houtcome.trans houtcome'.symm⟩

lemma visits_grows (vs : List Visit) (cache : MatcherCache) :
    (visits vs cache).cache.Grows cache := by
  rw [(walks_visits vs cache).1]
  exact entries_grows _ cache

/-- Visits that come through add exactly the patterns of their maps. -/
lemma visits_patterns (hok : (visits vs cache).outcome = .ok ()) (q : String) :
    q ∈ (visits vs cache).cache.patterns ↔ q ∈ cache.patterns ∨
      ∃ v ∈ vs, ∃ e ∈ v.map.entries, e.2.NeedsMatcher ∧ e.2.value = q := by
  obtain ⟨hcache, houtcome⟩ := walks_visits vs cache
  rw [hcache, entries_patterns (houtcome.symm.trans hok)]
  refine or_congr_right ⟨?_, ?_⟩
  · rintro ⟨e, he, hneeds⟩
    obtain ⟨v, hv, he⟩ := List.mem_flatMap.mp he
    exact ⟨v, hv, e, v.perm.mem_iff.mp he, hneeds⟩
  · rintro ⟨v, hv, e, he, hneeds⟩
    exact ⟨e, List.mem_flatMap.mpr ⟨v, hv, v.perm.mem_iff.mpr he⟩, hneeds⟩

/-- If an inspection comes through, so does each of its parts. -/
lemma outcome_of_each {inspect : α → MatcherCache → Inspection} {before after : List α} {a : α}
    (hok : (each inspect (before ++ a :: after) cache).outcome = .ok ()) :
    (inspect a (each inspect before cache).cache).outcome = .ok () := by
  rw [each_append] at hok
  obtain ⟨-, hrest⟩ := andThen_outcome_eq_ok.mp hok
  rw [each] at hrest
  exact (andThen_outcome_eq_ok.mp hrest).1

/-- What visits leave behind that stop in one map after they came through others. -/
structure StopsAt (before : List Visit) (v : Visit) (cache : MatcherCache) (fault : RuleError)
    (later : MatcherCache) : Prop where
  /-- Each map before is sound for the cache that is reached there. -/
  sound : ∀ earlier w rest, before = earlier ++ w :: rest →
    ∀ e ∈ w.map.entries, e.2.IsSoundFor (visits earlier cache).cache
  /-- The fault is that of an entry of the map that is not sound for the cache reached there. -/
  named : ∃ e ∈ v.map.entries, ¬e.2.IsSoundFor (visits before cache).cache ∧
    HasFault (visits before cache).cache e fault
  keeps : later.Extends cache
  /-- The patterns of the maps before are cached. -/
  holds : ∀ w ∈ before, ∀ e ∈ w.map.entries, e.2.NeedsMatcher → e.2.value ∈ later.patterns
  /-- Nothing else is added but patterns of the map, so that none of those behind it only. -/
  added : ∀ q ∈ later.patterns, q ∈ cache.patterns ∨
    ∃ w ∈ before ++ [v], ∃ e ∈ w.map.entries, e.2.NeedsMatcher ∧ e.2.value = q
  not_cached : ∀ q cause, fault = .invalidPattern q cause → q ∉ later.patterns

/-- Visits that stop do so in the first map that is not sound. -/
theorem stopsAt_of_visits (h : (visits vs cache).outcome = .error fault) :
    ∃ before v after, vs = before ++ v :: after ∧
      StopsAt before v cache fault (visits vs cache).cache := by
  obtain ⟨before, v, after, rfl, hbefore, hv⟩ := exists_of_each_eq_error h
  have hlater : (visits (before ++ v :: after) cache).cache =
      (entries v.entries (visits before cache).cache).cache := (each_of_stop hbefore hv after).1
  have hpatterns := visits_patterns hbefore
  obtain ⟨⟨e, he, hfault⟩, hnone, hadded⟩ := stoppedBy_of_entries hv
  refine ⟨before, v, after, rfl, ?_, ?_, (visits_grows _ cache).keeps, ?_, ?_, ?_⟩
  · rintro earlier w rest rfl e he
    have hw := outcome_of_each hbefore
    exact (entries_outcome w.entries _).mp hw e (w.perm.mem_iff.mpr he)
  · exact ⟨e, v.perm.mem_iff.mp he, hfault.not_isSoundFor, hfault⟩
  · intro w hw e he hneeds
    have hreached := (hpatterns e.2.value).mpr (.inr ⟨w, hw, e, he, hneeds, rfl⟩)
    rw [hlater]
    exact (entries_grows v.entries _).keeps.mem_patterns hreached
  · intro q hq
    rw [hlater] at hq
    rcases mem_patterns_entries hq with hreached | ⟨e, he, hneeds⟩
    · rcases (hpatterns q).mp hreached with hold | ⟨w, hw, hneeds⟩
      · exact .inl hold
      · exact .inr ⟨w, List.mem_append_left _ hw, hneeds⟩
    · exact .inr ⟨v, List.mem_concat_self, e, v.perm.mem_iff.mp he, hneeds⟩
  · rw [hlater]
    exact hnone

/-- An inspection of rules as what they are that finds a fault stops in the first map that is not
sound; so do visits of their maps in which the entries of each map come in any order. -/
theorem payload_stops (p : Payload) (cache : MatcherCache) :
    (∀ fault, (payload p.kind p cache).outcome = .error fault →
      ∃ before m after, p.maps = before ++ m :: after ∧
        StopsAt (before.map .byName) (.byName m) cache fault (payload p.kind p cache).cache) ∧
    ∀ vs : List Visit, vs.map (·.map) = p.maps →
      ∀ fault, (visits vs cache).outcome = .error fault →
        ∃ before v after, vs = before ++ v :: after ∧
          p.maps = before.map (·.map) ++ v.map :: after.map (·.map) ∧
          StopsAt before v cache fault (visits vs cache).cache := by
  constructor
  · intro fault hfault
    obtain ⟨hcache, houtcome⟩ := payload_eq_visits p cache
    obtain ⟨before, v, after, hvs, hstops⟩ := stopsAt_of_visits (houtcome.symm.trans hfault)
    obtain ⟨maps, rest, hmaps, rfl, hrest⟩ := List.map_eq_append_iff.mp hvs
    obtain ⟨m, others, rfl, rfl, -⟩ := List.map_eq_cons_iff.mp hrest
    rw [hcache]
    exact ⟨maps, m, others, hmaps, hstops⟩
  · intro vs hmaps fault hfault
    obtain ⟨before, v, after, rfl, hstops⟩ := stopsAt_of_visits hfault
    rw [List.map_append, List.map_cons] at hmaps
    exact ⟨before, v, after, rfl, hmaps.symm, hstops⟩

/-- The first of two destinations has a pattern that does not compile. -/
def refusedDestination : Payload :=
  .routing ⟨"", "",
    [⟨[⟨"", "", .ofEntries [("path", ⟨.regex, .text, "ab"⟩)]⟩],
      [⟨"", "", .ofEntries [("host", ⟨.regex, .text, "("⟩), ("user", ⟨.regex, .text, "cd"⟩)],
          none, none, none, none⟩,
        ⟨"", "", .ofEntries [("zone", ⟨.exact, .variableName, ""⟩)], none, none, none, none⟩]⟩],
    [⟨[⟨"", "", .ofEntries [("path", ⟨.regex, .text, "ef"⟩)]⟩], []⟩], none⟩

/-- The inspection of these rules by an empty cache. -/
def refusedInspection : Inspection :=
  payload refusedDestination.kind refusedDestination (.ofConfig .default)

/-- Of the patterns only that of the source before it is cached. -/
theorem payload_stops_refusedDestination :
    refusedInspection.cache.patterns = ["ab"] ∧
      ∃ fault before m after, refusedInspection.outcome = .error fault ∧
        fault.pattern? = some "(" ∧ refusedDestination.maps = before ++ m :: after ∧
        StopsAt (before.map .byName) (.byName m) (.ofConfig .default) fault
          refusedInspection.cache := by
  have hpatterns : refusedInspection.cache.patterns = ["ab"] := by cbv
  have hpattern : refusedInspection.refusedPattern? = some "(" := by cbv
  obtain ⟨hstops, -⟩ := payload_stops refusedDestination (.ofConfig .default)
  obtain ⟨fault, hfault, hrefused⟩ := refusedPattern?_eq_some hpattern
  obtain ⟨before, m, after, hmaps, hstop⟩ := hstops fault hfault
  exact ⟨hpatterns, fault, before, m, after, hfault, hrefused, hmaps, hstop⟩

end Inspection

end RuleIntake
