import RuleIntake.Rule.Event
import RuleIntake.Rule.MatcherCache
import RuleIntake.Rule.Payload

/-!
# Inspecting match entries

Every match entry of a payload is looked at before its rules are used. Wildcards need nothing;
variables need a name; patterns need to compile, and their matchers are kept in a cache. Inspection
stops at the first entry that is not sound.
-/

namespace RuleIntake

/-- What an inspection comes to: the cache behind it, what was told, and the first error. -/
structure Inspection where
  cache : MatcherCache
  events : List Event
  outcome : Except RuleError Unit

namespace Inspection

def clean (cache : MatcherCache) : Inspection := ⟨cache, [], .ok ()⟩

/-- Goes on unless there was an error. -/
def andThen (first : Inspection) (next : MatcherCache → Inspection) : Inspection :=
  match first.outcome with
  | .error _ => first
  | .ok _ =>
    let second := next first.cache
    ⟨second.cache, first.events ++ second.events, second.outcome⟩

/-- Tells an error. -/
def reporting (i : Inspection) (event : RuleError → Event) : Inspection :=
  match i.outcome with
  | .error e => { i with events := i.events ++ [event e] }
  | .ok _ => i

def each {α : Type} (inspect : α → MatcherCache → Inspection) :
    List α → MatcherCache → Inspection
  | [], cache => clean cache
  | a :: rest, cache => (inspect a cache).andThen (each inspect rest)

/-- Makes sure that a pattern has a matcher. -/
def pattern (field pattern : String) (cache : MatcherCache) : Inspection :=
  match cache.getOrCompile pattern with
  | (.error cause, cache) => ⟨cache, [], .error (.invalidPattern pattern cause)⟩
  | (.ok _, cache) => ⟨cache, [.matcherReady field pattern cache.previewLength], .ok ()⟩

def entry (e : String × MatchEntry) (cache : MatcherCache) : Inspection :=
  if e.2.isWildcard then clean cache
  else if e.2.valueKind = .variableName ∧ e.2.value.isEmpty then
    ⟨cache, [], .error (.malformedReference e.1)⟩
  else if e.2.isPattern then pattern e.1 e.2.value cache
  else clean cache

/-- Inspects entries in the given order. -/
def entries (es : List (String × MatchEntry)) (cache : MatcherCache) : Inspection :=
  each entry es cache

/-- Inspects entries in the order of their names. -/
def metadata (m : MatchMetadata) (cache : MatcherCache) : Inspection := entries m.entries cache

/-! ## Payloads -/

/-- Inspects the sources of a route, then its destinations. -/
def route (direction : Direction) (r : Route × Nat) (cache : MatcherCache) : Inspection :=
  (each (fun s c => (metadata s.metadata c).reporting (.routeInvalid direction r.2 .source))
    r.1.sources cache).andThen
  (each (fun d c => (metadata d.metadata c).reporting (.routeInvalid direction r.2 .destination))
    r.1.destinations)

/-- Inspects routes, which are counted from zero. -/
def routes (direction : Direction) (rs : List Route) (cache : MatcherCache) : Inspection :=
  each (route direction) rs.zipIdx cache

/-- Inspects the routes of a service, inbound ones first. -/
def routing (r : Routing) (cache : MatcherCache) : Inspection :=
  (routes .inbound r.inbounds cache).andThen (routes .outbound r.outbounds)

def rateLimit (r : RateLimit) (cache : MatcherCache) : Inspection :=
  each (fun rule c => (metadata rule.labels c).reporting (.labelsInvalid rule.id)) r.rules cache

/-- Inspects a payload as rules of a kind. -/
def payload (kind : RuleKind) (p : Payload) (cache : MatcherCache) : Inspection :=
  match kind, p with
  | .routing, .routing r => routing r cache
  | .rateLimiting, .rateLimiting r => rateLimit r cache
  | _, _ => ⟨cache, [], .error (.malformedDocument (.foreignPayload kind p.kind))⟩

end Inspection

end RuleIntake
