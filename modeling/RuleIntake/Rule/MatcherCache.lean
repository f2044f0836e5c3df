import RuleIntake.Rule.Config

/-!
# Matcher caches

A cache keeps one matcher for each pattern. The first matcher that is stored under a pattern stays;
patterns that do not compile leave no trace, but every attempt is counted.
-/

namespace RuleIntake

/-- A compiled pattern with an identity. -/
structure Matcher where
  serial : Nat
  regex : Regex

structure MatcherCache where
  /-- The matchers by pattern, in the order in which they came. -/
  entries : List (String × Matcher)
  compile : String → Except Pattern.CompileError Regex
  /-- How many characters of a pattern events show. -/
  previewLength : Nat
  /-- How often a pattern was compiled or should have been. -/
  compilations : Nat
  /-- The identity of the next new matcher. -/
  nextSerial : Nat

namespace MatcherCache

def withCompiler (compile : String → Except Pattern.CompileError Regex) : MatcherCache :=
  ⟨[], compile, Config.default.logPreviewLength, 0, 0⟩

def ofConfig (config : Config) : MatcherCache :=
  { withCompiler config.compile with previewLength := config.logPreviewLength }

def get? (cache : MatcherCache) (pattern : String) : Option Matcher := cache.entries.lookup pattern

def contains (cache : MatcherCache) (pattern : String) : Bool := (cache.get? pattern).isSome

def size (cache : MatcherCache) : Nat := cache.entries.length

def isEmpty (cache : MatcherCache) : Bool := cache.entries.isEmpty

/-- The patterns, in the order in which they came. -/
def patterns (cache : MatcherCache) : List String := cache.entries.map (·.1)

/-- Stores a matcher unless the pattern has one. Returns the one that the pattern has then. -/
def put (cache : MatcherCache) (pattern : String) (matcher : Matcher) : Matcher × MatcherCache :=
  match cache.get? pattern with
  | some kept => (kept, cache)
  | none => (matcher, { cache with entries := cache.entries ++ [(pattern, matcher)] })

/-- Gives a compiled pattern an identity of its own. -/
def mint (cache : MatcherCache) (regex : Regex) : Matcher × MatcherCache :=
  (⟨cache.nextSerial, regex⟩, { cache with nextSerial := cache.nextSerial + 1 })

/-- The matcher of a pattern, which is compiled and stored if there is none. -/
def getOrCompile (cache : MatcherCache) (pattern : String) :
    Except Pattern.CompileError Matcher × MatcherCache :=
  match cache.get? pattern with
  | some kept => (.ok kept, cache)
  | none =>
    let cache := { cache with compilations := cache.compilations + 1 }
    match cache.compile pattern with
    | .error e => (.error e, cache)
    | .ok regex =>
      let (matcher, cache) := cache.mint regex
      let (kept, cache) := cache.put pattern matcher
      (.ok kept, cache)

end MatcherCache

end RuleIntake
