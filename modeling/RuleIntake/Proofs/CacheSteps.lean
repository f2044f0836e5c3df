import Mathlib.Tactic.Common
import RuleIntake.Rule.MatcherCache

/-!
# Steps of a matcher cache

What storing and looking up a matcher can do to a cache. Whatever is cached stays as it is, and a
pattern that is looked up has its matcher afterwards or does not compile.
-/

namespace RuleIntake.MatcherCache

variable {cache : MatcherCache} {p q : String} {m : Matcher}

/-! ### What is cached -/

lemma exists_get?_eq_some : (∃ m, cache.get? p = some m) ↔ p ∈ cache.patterns := by
  rw [← Option.isSome_iff_exists, get?, List.lookup_isSome_iff, patterns, List.mem_map]
  simp only [beq_iff_eq, @eq_comm _ p]

lemma get?_eq_none : cache.get? p = none ↔ p ∉ cache.patterns := by
  rw [← exists_get?_eq_some, ← Option.isSome_iff_exists, Option.not_isSome_iff_eq_none]

lemma contains_eq_true : cache.contains p = true ↔ p ∈ cache.patterns := by
  rw [contains, Option.isSome_iff_exists, exists_get?_eq_some]

def adding (cache : MatcherCache) (p : String) (m : Matcher) : MatcherCache :=
  { cache with entries := cache.entries ++ [(p, m)] }

lemma get?_adding (cache : MatcherCache) (p : String) (m : Matcher) (q : String) :
    (cache.adding p m).get? q = (cache.get? q).or ([(p, m)].lookup q) := by
  rw [get?, adding, List.lookup_append]
  rfl

lemma get?_adding_self (h : cache.get? p = none) (m : Matcher) :
    (cache.adding p m).get? p = some m := by
  rw [get?_adding, h, Option.none_or, List.lookup_cons_self]

lemma get?_adding_of_ne (hne : q ≠ p) (m : Matcher) :
    (cache.adding p m).get? q = cache.get? q := by
  have hlookup : [(p, m)].lookup q = none := by
    rw [List.lookup_eq_none_iff]
    intro e he
    rw [List.mem_singleton.mp he]
    exact bne_iff_ne.mpr hne
  rw [get?_adding, hlookup, Option.or_none]

/-! ### Extensions -/

/-- Whatever was cached earlier is cached still, under the same matcher. -/
def Extends (cache earlier : MatcherCache) : Prop :=
  ∀ p m, earlier.get? p = some m → cache.get? p = some m

lemma Extends.refl (cache : MatcherCache) : cache.Extends cache := fun _ _ h => h

lemma Extends.trans {later earlier : MatcherCache} (h : later.Extends cache)
    (h' : cache.Extends earlier) : later.Extends earlier := by
  intro p m hm
  have hcache := h' p m hm
  exact h p m hcache

lemma Extends.mem_patterns {later : MatcherCache} (h : later.Extends cache)
    (hp : p ∈ cache.patterns) : p ∈ later.patterns := by
  obtain ⟨m, hm⟩ := exists_get?_eq_some.mpr hp
  exact exists_get?_eq_some.mp ⟨m, h p m hm⟩

lemma extends_adding (h : cache.get? p = none) (m : Matcher) :
    (cache.adding p m).Extends cache := by
  intro q kept hq
  have hne : q ≠ p := by
    rintro rfl
    rw [h] at hq
    cases hq
  rwa [get?_adding_of_ne hne]

/-! ### Storing -/

/-- The matcher that is cached first stays; another one is cached only if there was none. -/
lemma put_cases (cache : MatcherCache) (p : String) (m : Matcher) :
    (∃ kept, cache.get? p = some kept ∧ cache.put p m = (kept, cache)) ∨
      cache.get? p = none ∧ cache.put p m = (m, cache.adding p m) := by
  cases h : cache.get? p with
  | some kept =>
    have hput : cache.put p m = (kept, cache) := by rw [put, h]
    exact .inl ⟨kept, rfl, hput⟩
  | none =>
    have hput : cache.put p m = (m, cache.adding p m) := by
      rw [put, h]
      rfl
    exact .inr ⟨rfl, hput⟩

lemma put_extends (cache : MatcherCache) (p : String) (m : Matcher) :
    (cache.put p m).2.Extends cache := by
  rcases cache.put_cases p m with ⟨kept, -, hput⟩ | ⟨hnone, hput⟩ <;> rw [hput]
  · exact .refl cache
  · exact extends_adding hnone m

lemma put_compile (cache : MatcherCache) (p : String) (m : Matcher) :
    (cache.put p m).2.compile = cache.compile := by
  rcases cache.put_cases p m with ⟨kept, -, hput⟩ | ⟨-, hput⟩ <;> rw [hput]
  rfl

lemma put_compilations (cache : MatcherCache) (p : String) (m : Matcher) :
    (cache.put p m).2.compilations = cache.compilations := by
  rcases cache.put_cases p m with ⟨kept, -, hput⟩ | ⟨-, hput⟩ <;> rw [hput]
  rfl

lemma get?_put_of_ne (hne : q ≠ p) (m : Matcher) :
    (cache.put p m).2.get? q = cache.get? q := by
  rcases cache.put_cases p m with ⟨kept, -, hput⟩ | ⟨-, hput⟩ <;> rw [hput]
  exact get?_adding_of_ne hne m

lemma get?_put (cache : MatcherCache) (p : String) (m : Matcher) :
    (cache.put p m).2.get? p = some (cache.put p m).1 := by
  rcases cache.put_cases p m with ⟨kept, hkept, hput⟩ | ⟨hnone, hput⟩ <;> rw [hput]
  · exact hkept
  · exact get?_adding_self hnone m

lemma fst_put (cache : MatcherCache) (p : String) (m : Matcher) :
    (cache.put p m).1 = (cache.get? p).getD m := by
  rcases cache.put_cases p m with ⟨kept, hkept, hput⟩ | ⟨hnone, hput⟩ <;> rw [hput]
  · rw [hkept, Option.getD_some]
  · rw [hnone, Option.getD_none]

/-! ### Looking up -/

def counting (cache : MatcherCache) : MatcherCache :=
  { cache with compilations := cache.compilations + 1 }

/-- The cache once a pattern is compiled and its matcher stored. -/
def storing (cache : MatcherCache) (p : String) (regex : Regex) : MatcherCache :=
  { cache.counting.adding p ⟨cache.nextSerial, regex⟩ with nextSerial := cache.nextSerial + 1 }

lemma get?_storing (cache : MatcherCache) (p : String) (regex : Regex) (q : String) :
    (cache.storing p regex).get? q =
      (cache.get? q).or ([(p, ⟨cache.nextSerial, regex⟩)].lookup q) :=
  get?_adding cache.counting p ⟨cache.nextSerial, regex⟩ q

lemma get?_storing_self (h : cache.get? p = none) (regex : Regex) :
    (cache.storing p regex).get? p = some ⟨cache.nextSerial, regex⟩ := by
  rw [get?_storing, h, Option.none_or, List.lookup_cons_self]

lemma mem_patterns_storing {regex : Regex} :
    q ∈ (cache.storing p regex).patterns ↔ q ∈ cache.patterns ∨ p = q := by
  simp [patterns, storing, adding, counting, eq_comm]

/-- A pattern that is looked up is cached already, does not compile, or is cached then. -/
lemma getOrCompile_cases (cache : MatcherCache) (p : String) :
    (∃ kept, cache.get? p = some kept ∧ cache.getOrCompile p = (.ok kept, cache)) ∨
      (∃ fault, cache.get? p = none ∧ cache.compile p = .error fault ∧
        cache.getOrCompile p = (.error fault, cache.counting)) ∨
      ∃ regex, cache.get? p = none ∧ cache.compile p = .ok regex ∧
        cache.getOrCompile p = (.ok ⟨cache.nextSerial, regex⟩, cache.storing p regex) := by
  cases h : cache.get? p with
  | some kept =>
    left
    have hget : cache.getOrCompile p = (.ok kept, cache) := by rw [getOrCompile, h]
    exact ⟨kept, rfl, hget⟩
  | none =>
    right
    cases hc : cache.compile p with
    | error fault =>
      left
      refine ⟨fault, rfl, rfl, ?_⟩
      simp only [getOrCompile, h, hc]
      rfl
    | ok regex =>
      right
      refine ⟨regex, rfl, rfl, ?_⟩
      have hnone : (cache.counting.mint regex).2.get? p = none := h
      simp only [getOrCompile, h, hc]
      change (Except.ok ((cache.counting.mint regex).2.put p ⟨cache.nextSerial, regex⟩).1,
        ((cache.counting.mint regex).2.put p ⟨cache.nextSerial, regex⟩).2) = _
      rw [put, hnone]
      rfl

lemma getOrCompile_of_mem (hp : p ∈ cache.patterns) :
    ∃ m, cache.getOrCompile p = (.ok m, cache) := by
  obtain ⟨m, hm⟩ := exists_get?_eq_some.mpr hp
  exact ⟨m, by rw [getOrCompile, hm]⟩

lemma storing_extends (h : cache.get? p = none) (regex : Regex) :
    (cache.storing p regex).Extends cache := by
  have hadding : (cache.counting.adding p ⟨cache.nextSerial, regex⟩).Extends cache.counting :=
    extends_adding h _
  exact hadding

lemma getOrCompile_extends (cache : MatcherCache) (p : String) :
    (cache.getOrCompile p).2.Extends cache := by
  rcases cache.getOrCompile_cases p with ⟨kept, -, h⟩ | ⟨fault, -, -, h⟩ | ⟨regex, hnone, -, h⟩ <;>
    rw [h]
  · exact .refl cache
  · exact .refl cache
  · exact storing_extends hnone regex

lemma get?_getOrCompile (h : (cache.getOrCompile p).1 = .ok m) :
    (cache.getOrCompile p).2.get? p = some m := by
  rcases cache.getOrCompile_cases p with ⟨kept, hkept, hget⟩ | ⟨fault, -, -, hget⟩ |
      ⟨regex, hnone, -, hget⟩ <;> rw [hget] at h ⊢ <;> cases h
  · exact hkept
  · exact get?_storing_self hnone regex

/-- Whether there is a matcher for a pattern, or can be one. -/
def Serves (cache : MatcherCache) (p : String) : Prop :=
  p ∈ cache.patterns ∨ ∃ regex, cache.compile p = .ok regex

lemma exists_getOrCompile_eq_ok :
    (∃ m, (cache.getOrCompile p).1 = .ok m) ↔ cache.Serves p := by
  rw [Serves, ← exists_get?_eq_some]
  rcases cache.getOrCompile_cases p with ⟨kept, hkept, h⟩ | ⟨fault, hnone, hfault, h⟩ |
    ⟨regex, hnone, hregex, h⟩ <;> rw [h]
  · constructor
    · intro _
      exact .inl ⟨kept, hkept⟩
    · intro _
      exact ⟨kept, rfl⟩
  · simp [hnone, hfault]
  · constructor
    · intro _
      exact .inr ⟨regex, hregex⟩
    · intro _
      exact ⟨⟨cache.nextSerial, regex⟩, rfl⟩

lemma Serves.mem_patterns (h : cache.Serves p) : p ∈ (cache.getOrCompile p).2.patterns := by
  obtain ⟨m, hm⟩ := exists_getOrCompile_eq_ok.mpr h
  exact exists_get?_eq_some.mp ⟨m, get?_getOrCompile hm⟩

/-! ### Growing -/

/-- A cache has grown by patterns that it compiled itself. -/
structure Grows (later cache : MatcherCache) : Prop where
  compile : later.compile = cache.compile
  previewLength : later.previewLength = cache.previewLength
  keeps : later.Extends cache
  compiled : ∀ e ∈ later.entries, e ∈ cache.entries ∨ cache.compile e.1 = .ok e.2.regex

lemma Grows.refl (cache : MatcherCache) : cache.Grows cache :=
  ⟨rfl, rfl, .refl cache, fun _ he => .inl he⟩

lemma Grows.trans {later earlier : MatcherCache} (h : later.Grows cache)
    (h' : cache.Grows earlier) : later.Grows earlier where
  compile := h.compile.trans h'.compile
  previewLength := h.previewLength.trans h'.previewLength
  keeps := h.keeps.trans h'.keeps
  compiled := by
    intro e he
    rcases h.compiled e he with hold | hnew
    · exact h'.compiled e hold
    · exact .inr (h'.compile ▸ hnew)

lemma getOrCompile_grows (cache : MatcherCache) (p : String) :
    (cache.getOrCompile p).2.Grows cache := by
  have hkeeps := cache.getOrCompile_extends p
  rcases cache.getOrCompile_cases p with ⟨kept, -, h⟩ | ⟨fault, -, -, h⟩ | ⟨regex, -, hregex, h⟩ <;>
    rw [h] at hkeeps ⊢
  · exact .refl cache
  · exact ⟨rfl, rfl, hkeeps, fun _ he => .inl he⟩
  · refine ⟨rfl, rfl, hkeeps, ?_⟩
    intro e he
    rcases List.mem_append.mp he with hold | hnew
    · exact .inl hold
    · rw [List.mem_singleton.mp hnew]
      exact .inr hregex

lemma Grows.serves_iff {later : MatcherCache} (h : later.Grows cache) :
    later.Serves p ↔ cache.Serves p := by
  constructor
  · rintro (hp | hregex)
    · obtain ⟨e, he, rfl⟩ := List.mem_map.mp hp
      rcases h.compiled e he with hold | hnew
      · exact .inl (List.mem_map_of_mem hold)
      · exact .inr ⟨_, hnew⟩
    · exact .inr (h.compile ▸ hregex)
  · rintro (hp | hregex)
    · exact .inl (h.keeps.mem_patterns hp)
    · exact .inr (h.compile ▸ hregex)

lemma mem_patterns_getOrCompile (h : (cache.getOrCompile p).1 = .ok m) :
    q ∈ (cache.getOrCompile p).2.patterns ↔ q ∈ cache.patterns ∨ p = q := by
  rcases cache.getOrCompile_cases p with ⟨kept, hkept, hget⟩ | ⟨fault, -, -, hget⟩ |
    ⟨regex, -, -, hget⟩
  · have hp : p ∈ cache.patterns := exists_get?_eq_some.mp ⟨kept, hkept⟩
    rw [hget]
    constructor
    · intro hq
      exact .inl hq
    · rintro (hq | rfl)
      · exact hq
      · exact hp
  · rw [hget] at h
    cases h
  · rw [hget]
    exact mem_patterns_storing

lemma patterns_getOrCompile_of_error {fault : Pattern.CompileError}
    (h : (cache.getOrCompile p).1 = .error fault) :
    (cache.getOrCompile p).2.patterns = cache.patterns := by
  rcases cache.getOrCompile_cases p with ⟨kept, -, hget⟩ | ⟨refused, -, -, hget⟩ |
    ⟨regex, -, -, hget⟩
  · rw [hget] at h
    cases h
  · exact congrArg (fun result => result.2.patterns) hget
  · rw [hget] at h
    cases h

end RuleIntake.MatcherCache
