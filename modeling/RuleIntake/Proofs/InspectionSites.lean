import Mathlib
import RuleIntake.Proofs.FirstFault

/-!
# What an inspection tells

The maps of match entries in some rules stand at sites, each with a warning of its own. An
inspection goes through the sites one after the other and tells of every matcher that it made sure
of. Where it stops, the warning of the site is the last thing that it tells.
-/

namespace RuleIntake

open MatchEntry

/-! ### Sites -/

/-- Where in some rules a map of match entries stands. Routes of a direction are counted from
zero. -/
inductive Place
  | route (direction : Direction) (index : Nat) (side : RouteSide)
  | labels (rule : String)

/-- What is told if the map at a place is not sound. -/
def Place.warning : Place → RuleError → Event
  | route direction index side => .routeInvalid direction index side
  | labels rule => .labelsInvalid rule

/-- A map of match entries and where it stands. -/
structure Site where
  place : Place
  map : MatchMetadata

/-- The sites of a counted route: its sources, then its destinations. -/
def Route.sites (direction : Direction) (r : Route × Nat) : List Site :=
  r.1.sources.map (fun s => ⟨.route direction r.2 .source, s.metadata⟩) ++
    r.1.destinations.map fun d => ⟨.route direction r.2 .destination, d.metadata⟩

/-- The sites of rules, in the order in which they are inspected. -/
def Payload.sites : Payload → List Site
  | .routing r => r.inbounds.zipIdx.flatMap (Route.sites .inbound) ++
      r.outbounds.zipIdx.flatMap (Route.sites .outbound)
  | .rateLimiting r => r.rules.map fun rule => ⟨.labels rule.id, rule.labels⟩

lemma Route.map_map_sites (direction : Direction) (rs : List Route) :
    (rs.zipIdx.flatMap (sites direction)).map (·.map) = rs.flatMap maps := by
  have hroute (r : Route × Nat) : (sites direction r).map (·.map) = r.1.maps := by
    simp only [sites, maps, List.map_append, List.map_map]
    rfl
  simp only [List.map_flatMap, hroute]
  rw [← List.flatMap_map Prod.fst maps, List.zipIdx_map_fst]

lemma Payload.map_map_sites (p : Payload) : p.sites.map (·.map) = p.maps := by
  cases p with
  | routing r =>
    rw [sites, maps, List.map_append, List.flatMap_append, Route.map_map_sites,
      Route.map_map_sites]
  | rateLimiting r =>
    rw [sites, maps, List.map_map]
    rfl

/-- For the map at each site of some rules, an order in which its entries are visited. Sites are
counted from zero. -/
structure EntryOrder where
  entries : Nat → MatchMetadata → List (String × MatchEntry)
  perm : ∀ site m, (entries site m).Perm m.entries

/-- The order in which rules are inspected. -/
def EntryOrder.byName : EntryOrder :=
  ⟨fun _ m => (Visit.byName m).entries, fun _ m => (Visit.byName m).perm⟩

namespace Inspection

variable {α β : Type} {cache : MatcherCache} {fault : RuleError} {e : String × MatchEntry}
  {es : List (String × MatchEntry)} {order : EntryOrder} {ss : List Site}

lemma each_map (inspect : β → MatcherCache → Inspection) (f : α → β) (as : List α) :
    each inspect (as.map f) = each (fun a => inspect (f a)) as := by
  induction as with
  | nil => rfl
  | cons a as ih =>
    funext cache
    rw [List.map_cons, each, each, ih]

/-- Inspecting lists one after the other is inspecting all that is in them. -/
lemma each_flatMap (inspect : β → MatcherCache → Inspection) (f : α → List β) (as : List α) :
    each inspect (as.flatMap f) = each (fun a => each inspect (f a)) as := by
  induction as with
  | nil => rfl
  | cons a as ih =>
    funext cache
    rw [List.flatMap_cons, each_append, each, ih]

def site (order : EntryOrder) (s : Site × Nat) (cache : MatcherCache) : Inspection :=
  (entries (order.entries s.2 s.1.map) cache).reporting s.1.place.warning

/-- Inspects sites one after the other. -/
def sites (order : EntryOrder) (ss : List Site) : MatcherCache → Inspection :=
  each (site order) ss.zipIdx

/-- Inspects the entries of a map at a site by name. -/
def siteByName (s : Site) (cache : MatcherCache) : Inspection :=
  (metadata s.map cache).reporting s.place.warning

lemma sites_byName (ss : List Site) : sites .byName ss = each siteByName ss := by
  have hsites := each_map siteByName Prod.fst ss.zipIdx
  rw [List.zipIdx_map_fst] at hsites
  exact hsites.symm

lemma routes_eq_sites (direction : Direction) (rs : List Route) :
    routes direction rs = each siteByName (rs.zipIdx.flatMap (Route.sites direction)) := by
  have hroute : route direction = fun r => each siteByName (Route.sites direction r) := by
    funext r cache
    rw [Route.sites, each_append, each_map, each_map]
    rfl
  funext cache
  rw [each_flatMap, routes, hroute]

/-- Rules are inspected as what they are by inspecting their sites, the entries by name. -/
theorem payload_eq_sites (p : Payload) (cache : MatcherCache) :
    payload p.kind p cache = sites .byName p.sites cache := by
  rw [sites_byName]
  cases p with
  | routing r =>
    rw [Payload.sites, each_append, ← routes_eq_sites, ← routes_eq_sites]
    rfl
  | rateLimiting r =>
    rw [Payload.sites, each_map]
    rfl

/-- Inspects a payload as rules of a kind, the entries of each map in some order. -/
def payloadIn (order : EntryOrder) (kind : RuleKind) (p : Payload) (cache : MatcherCache) :
    Inspection :=
  if p.kind = kind then sites order p.sites cache else payload kind p cache

lemma payloadIn_byName (kind : RuleKind) (p : Payload) (cache : MatcherCache) :
    payloadIn .byName kind p cache = payload kind p cache := by
  rw [payloadIn]
  split
  case isTrue hkind =>
    subst hkind
    exact (payload_eq_sites p cache).symm
  case isFalse => rfl

/-- The entries of sites in the order in which they are visited. -/
def visited (order : EntryOrder) (ss : List Site) : List (String × MatchEntry) :=
  ss.zipIdx.flatMap fun s => order.entries s.2 s.1.map

lemma visited_perm (order : EntryOrder) (p : Payload) : (visited order p.sites).Perm p.entries := by
  have hentries : p.entries = p.sites.zipIdx.flatMap fun s => s.1.map.entries := by
    rw [Payload.entries, ← p.map_map_sites, List.flatMap_map,
      ← List.flatMap_map Prod.fst (fun s : Site => s.map.entries), List.zipIdx_map_fst]
  rw [hentries]
  exact List.Perm.flatMap_left _ fun s _ => order.perm s.2 s.1.map

/-! ### What is told -/

/-- What is told of the matchers for entries that come through. -/
def ready (previewLength : Nat) (es : List (String × MatchEntry)) : List Event :=
  (es.filter (·.2.NeedsMatcher)).map fun e => .matcherReady e.1 e.2.value previewLength

lemma ready_append (n : Nat) (es others : List (String × MatchEntry)) :
    ready n (es ++ others) = ready n es ++ ready n others := by
  simp [ready]

/-- A walk through entries that tells of their matchers if it comes through. -/
structure TellsReady (es : List (String × MatchEntry)) (inspect : MatcherCache → Inspection) :
    Prop where
  walks : Walks es inspect
  told : ∀ cache, (inspect cache).outcome = .ok () →
    (inspect cache).events = ready cache.previewLength es

namespace TellsReady

variable {others : List (String × MatchEntry)} {f g : MatcherCache → Inspection}

lemma previewLength (h : TellsReady es f) (cache : MatcherCache) :
    (f cache).cache.previewLength = cache.previewLength := by
  rw [(h.walks cache).1]
  exact (entries_grows es cache).previewLength

lemma reporting (h : TellsReady es f) (event : RuleError → Event) :
    TellsReady es fun cache => (f cache).reporting event where
  walks := h.walks.reporting event
  told := by
    intro cache hok
    rw [Inspection.reporting] at hok ⊢
    split at hok
    · next fault hfault =>
      cases hfault.symm.trans hok
    · exact h.told cache hok

lemma andThen (h : TellsReady es f) (h' : TellsReady others g) :
    TellsReady (es ++ others) fun cache => (f cache).andThen g where
  walks := h.walks.andThen h'.walks
  told := by
    intro cache hok
    obtain ⟨hfirst, hsecond⟩ := andThen_outcome_eq_ok.mp hok
    rw [andThen_of_ok hfirst, ready_append, h.told cache hfirst, h'.told _ hsecond,
      h.previewLength]

lemma each {inspect : α → MatcherCache → Inspection} {es : α → List (String × MatchEntry)}
    (h : ∀ a, TellsReady (es a) (inspect a)) (as : List α) :
    TellsReady (as.flatMap es) (Inspection.each inspect as) := by
  induction as with
  | nil => exact ⟨fun _ => ⟨rfl, rfl⟩, fun _ _ => rfl⟩
  | cons a as ih =>
    have hfirst := h a
    exact hfirst.andThen ih

end TellsReady

lemma tellsReady_entry (e : String × MatchEntry) : TellsReady [e] (entry e) where
  walks := by
    intro cache
    cases h : (entry e cache).outcome with
    | error fault =>
      rw [entries, Inspection.each, andThen_of_error h]
      exact ⟨rfl, h.symm⟩
    | ok _ =>
      rw [entries, Inspection.each, andThen_of_ok h]
      exact ⟨rfl, rfl⟩
  told := by
    intro cache hok
    rcases entry_cases e cache with ⟨-, h⟩ | ⟨hneeds, -, h⟩ | ⟨hneeds, -, h⟩ <;> rw [h] at hok ⊢
    · cases hok
    · have hlength := (cache.getOrCompile_grows e.2.value).previewLength
      rcases pattern_cases e.1 e.2.value cache with ⟨m, -, hp⟩ | ⟨cause, -, hp⟩ <;>
        rw [hp] at hok ⊢
      · simp [ready, hneeds, hlength]
      · cases hok
    · simp [ready, hneeds, clean]

lemma tellsReady_entries (es : List (String × MatchEntry)) : TellsReady es (entries es) := by
  have h := TellsReady.each tellsReady_entry es
  rwa [List.flatMap_singleton'] at h

lemma tellsReady_sites (order : EntryOrder) (ss : List Site) :
    TellsReady (visited order ss) (sites order ss) := by
  have hsite (s : Site × Nat) :=
    (tellsReady_entries (order.entries s.2 s.1.map)).reporting s.1.place.warning
  exact TellsReady.each hsite ss.zipIdx

/-! ### Where an inspection stops -/

/-- What is told up to the place where an inspection stops. -/
lemma events_of_stop {inspect : α → MatcherCache → Inspection} {before : List α} {a : α}
    (hbefore : (each inspect before cache).outcome = .ok ())
    (ha : (inspect a (each inspect before cache).cache).outcome = .error fault) (after : List α) :
    (each inspect (before ++ a :: after) cache).events =
      (each inspect before cache).events ++
        (inspect a (each inspect before cache).cache).events := by
  rw [each_append, andThen_of_ok hbefore, each, andThen_of_error ha]

lemma events_entry_of_error (h : (entry e cache).outcome = .error fault) :
    (entry e cache).events = [] := by
  rcases entry_cases e cache with ⟨-, he⟩ | ⟨-, -, he⟩ | ⟨-, -, he⟩ <;> rw [he] at h ⊢
  · rcases pattern_cases e.1 e.2.value cache with ⟨m, -, hp⟩ | ⟨cause, -, hp⟩ <;> rw [hp] at h ⊢
    cases h
  · rfl

/-- A walk that stops tells of the matchers of the entries before the one at fault. -/
lemma exists_told_of_entries (h : (entries es cache).outcome = .error fault) :
    ∃ passed e rest, es = passed ++ e :: rest ∧ (∀ f ∈ passed, f.2.IsSoundFor cache) ∧
      HasFault cache e fault ∧ (entries es cache).events = ready cache.previewLength passed := by
  obtain ⟨passed, e, rest, rfl, hpassed, he⟩ := exists_of_each_eq_error h
  have hfault := (entries_grows passed cache).hasFault (hasFault_of_entry he)
  have hevents := events_of_stop hpassed he rest
  rw [events_entry_of_error he, List.append_nil] at hevents
  refine ⟨passed, e, rest, rfl, (entries_outcome passed cache).mp hpassed, hfault, ?_⟩
  exact hevents.trans ((tellsReady_entries passed).told cache hpassed)

/-- An entry in sites that are visited. -/
structure Stop (order : EntryOrder) (ss : List Site) where
  before : List Site
  site : Site
  after : List Site
  passed : List (String × MatchEntry)
  entry : String × MatchEntry
  rest : List (String × MatchEntry)
  sites_eq : ss = before ++ site :: after
  entries_eq : order.entries before.length site.map = passed ++ entry :: rest

/-- The entries that are visited before. -/
def Stop.earlier (stop : Stop order ss) : List (String × MatchEntry) :=
  visited order stop.before ++ stop.passed

/-- A stop in counted sites is behind sites that are counted from zero. -/
lemma exists_of_zipIdx_eq {before after : List (Site × Nat)} {s : Site × Nat}
    (h : ss.zipIdx = before ++ s :: after) :
    ∃ earlier site later, ss = earlier ++ site :: later ∧ before = earlier.zipIdx ∧
      s = (site, earlier.length) := by
  obtain ⟨earlier, rest, rfl, hbefore, hrest⟩ := List.zipIdx_eq_append_iff.mp h
  obtain ⟨site, later, rfl, hs, -⟩ := List.zipIdx_eq_cons_iff.mp hrest.symm
  rw [Nat.zero_add] at hs
  exact ⟨earlier, site, later, rfl, hbefore, hs⟩

/-- An inspection that stops does so at the first entry that is at fault for the cache with which it
started. It tells of the matchers of the entries before, and then the warning of the site. -/
theorem exists_stop_of_sites (h : (sites order ss cache).outcome = .error fault) :
    ∃ stop : Stop order ss, (∀ f ∈ stop.earlier, f.2.IsSoundFor cache) ∧
      HasFault cache stop.entry fault ∧
      (sites order ss cache).events =
        ready cache.previewLength stop.earlier ++ [stop.site.place.warning fault] := by
  obtain ⟨counted, s, rest, hsites, hbefore, hs⟩ := exists_of_each_eq_error h
  have hall := events_of_stop hbefore hs rest
  rw [← hsites] at hall
  obtain ⟨before, site, after, hss, rfl, rfl⟩ := exists_of_zipIdx_eq hsites
  have htells := tellsReady_sites order before
  have hgrows : (sites order before cache).cache.Grows cache := by
    rw [(htells.walks cache).1]
    exact entries_grows _ cache
  have hstop : (entries (order.entries before.length site.map)
      (sites order before cache).cache).outcome = .error fault := by
    rw [← hs]
    exact ((tellsReady_entries _).walks.reporting site.place.warning _).2.symm
  obtain ⟨passed, e, rest, hentries, hpassed, hfault, hevents⟩ := exists_told_of_entries hstop
  refine ⟨⟨before, site, after, passed, e, rest, hss, hentries⟩, ?_, hgrows.hasFault hfault, ?_⟩
  · have hearlier := (entries_outcome _ cache).mp ((htells.walks cache).2.symm.trans hbefore)
    rw [Stop.earlier, List.forall_mem_append]
    refine ⟨hearlier, fun f hf => ?_⟩
    exact (hgrows.isSoundFor_iff f.2).mp (hpassed f hf)
  · have hsite : (Inspection.site order (site, before.length)
        (sites order before cache).cache).events =
          ready cache.previewLength passed ++ [site.place.warning fault] := by
      rw [Inspection.site, reporting, hstop]
      dsimp only
      rw [hevents, htells.previewLength]
    have htold := htells.told cache hbefore
    rw [sites, hall, ← sites, htold, hsite, Stop.earlier, ready_append, List.append_assoc]

end Inspection

end RuleIntake
