import Mathlib
import RuleIntake.Proofs.CacheAgreement

/-!
# Faults of entries

A walk through match entries stops at one that the cache cannot serve, and the error names it. Since
a cache grows only by patterns that compile, this does not change which entries it can serve: in
whatever order entries are visited, the walk comes through or it does not, and if it does, it
compiles the same patterns.
-/

namespace RuleIntake

namespace MatchEntry

/-- What is wrong with the entry of a field: its variable has no name, or it needs a matcher for a
pattern that is not cached and does not compile. -/
inductive HasFault (cache : MatcherCache) (e : String × MatchEntry) : RuleError → Prop
  | nameless : e.2.LacksName → HasFault cache e (.malformedReference e.1)
  | refused {cause : Pattern.CompileError} : e.2.NeedsMatcher → e.2.value ∉ cache.patterns →
      cache.compile e.2.value = .error cause → HasFault cache e (.invalidPattern e.2.value cause)

lemma HasFault.not_isSoundFor {cache : MatcherCache} {e : String × MatchEntry} {fault : RuleError}
    (h : HasFault cache e fault) : ¬e.2.IsSoundFor cache := by
  rintro ⟨hname, hserved⟩
  cases h with
  | nameless h => exact hname h
  | refused hneeds hnone hcause =>
    rcases hserved hneeds with hcached | ⟨regex, hregex⟩
    · exact hnone hcached
    · rw [hcause] at hregex
      cases hregex

end MatchEntry

open MatchEntry

namespace MatcherCache

variable {cache later : MatcherCache} {p : String}

/-- The cache once an entry is refused: a pattern was compiled in vain if it was at fault. -/
def refusing (cache : MatcherCache) : RuleError → MatcherCache
  | .invalidPattern _ _ => cache.counting
  | _ => cache

lemma patterns_refusing (cache : MatcherCache) (fault : RuleError) :
    (cache.refusing fault).patterns = cache.patterns := by
  cases fault <;> rfl

lemma Grows.hasFault (h : later.Grows cache) {e : String × MatchEntry} {fault : RuleError}
    (hfault : HasFault later e fault) : HasFault cache e fault := by
  cases hfault with
  | nameless hname => exact .nameless hname
  | refused hneeds hnone hcause =>
    have hnone' : e.2.value ∉ cache.patterns := fun hp => hnone (h.keeps.mem_patterns hp)
    exact .refused hneeds hnone' (h.compile ▸ hcause)

/-- The matcher of a pattern that was not cached is what the compiler makes of it. -/
lemma Grows.exists_get? (h : later.Grows cache) (hp : p ∈ later.patterns)
    (hnone : p ∉ cache.patterns) :
    ∃ m, later.get? p = some m ∧ cache.compile p = .ok m.regex := by
  obtain ⟨m, hm⟩ := exists_get?_eq_some.mpr hp
  refine ⟨m, hm, ?_⟩
  rcases h.compiled _ (mem_entries_of_get? hm) with hold | hnew
  · exact absurd (List.mem_map_of_mem hold) hnone
  · exact hnew

/-- Two caches that have grown out of one by the same patterns have the same regular expressions. -/
lemma Grows.map_regex_get?_eq {other : MatcherCache} (h : later.Grows cache)
    (h' : other.Grows cache) (hpatterns : ∀ p, p ∈ later.patterns ↔ p ∈ other.patterns)
    (p : String) : (later.get? p).map (·.regex) = (other.get? p).map (·.regex) := by
  by_cases hold : p ∈ cache.patterns
  · obtain ⟨m, hm⟩ := exists_get?_eq_some.mpr hold
    rw [h.keeps p m hm, h'.keeps p m hm]
  by_cases hnew : p ∈ later.patterns
  · obtain ⟨m, hm, hregex⟩ := h.exists_get? hnew hold
    obtain ⟨m', hm', hregex'⟩ := h'.exists_get? ((hpatterns p).mp hnew) hold
    rw [hm, hm', Option.map_some, Option.map_some,
      Except.ok.inj (hregex.symm.trans hregex')]
  · rw [get?_eq_none.mpr hnew, get?_eq_none.mpr (mt (hpatterns p).mpr hnew)]

end MatcherCache

namespace Inspection

variable {cache : MatcherCache} {e : String × MatchEntry}
  {es others : List (String × MatchEntry)} {fault : RuleError}

/-! ### Where a walk stops -/

lemma entry_of_hasFault (h : HasFault cache e fault) :
    (entry e cache).cache = cache.refusing fault ∧ (entry e cache).outcome = .error fault := by
  rcases entry_cases e cache with ⟨hname, hentry⟩ | ⟨hneeds, hname, hentry⟩ |
    ⟨hneeds, hname, hentry⟩ <;> rw [hentry]
  · cases h with
    | nameless _ => exact ⟨rfl, rfl⟩
    | refused hneeds => exact absurd hneeds hname.not_needsMatcher
  · cases h with
    | nameless h => exact absurd h hname
    | refused _ hnone hcause =>
      rcases cache.getOrCompile_cases e.2.value with ⟨m, hm, -⟩ | ⟨fault, -, hfault, hget⟩ |
        ⟨regex, -, hregex, -⟩
      · exact absurd (MatcherCache.exists_get?_eq_some.mp ⟨m, hm⟩) hnone
      · cases hcause.symm.trans hfault
        rw [pattern, hget]
        exact ⟨rfl, rfl⟩
      · cases hcause.symm.trans hregex
  · cases h with
    | nameless h => exact absurd h hname
    | refused h => exact absurd h hneeds

lemma hasFault_of_entry (h : (entry e cache).outcome = .error fault) :
    HasFault cache e fault := by
  rcases entry_cases e cache with ⟨hname, hentry⟩ | ⟨hneeds, hname, hentry⟩ |
    ⟨hneeds, hname, hentry⟩ <;> rw [hentry] at h
  · cases h
    exact .nameless hname
  · rw [pattern] at h
    rcases cache.getOrCompile_cases e.2.value with ⟨m, -, hget⟩ | ⟨cause, hnone, hcause, hget⟩ |
      ⟨regex, -, -, hget⟩ <;> rw [hget] at h <;> cases h
    exact .refused hneeds (MatcherCache.get?_eq_none.mp hnone) hcause
  · cases h

/-- A walk that stops does so at an entry that is at fault for the cache reached there. -/
lemma exists_of_entries_eq_error (h : (entries es cache).outcome = .error fault) :
    ∃ before e after, es = before ++ e :: after ∧ (entries before cache).outcome = .ok () ∧
      HasFault (entries before cache).cache e fault := by
  obtain ⟨before, e, after, rfl, hbefore, he⟩ := exists_of_each_eq_error h
  exact ⟨before, e, after, rfl, hbefore, hasFault_of_entry he⟩

lemma entries_of_stop {before : List (String × MatchEntry)}
    (hbefore : (entries before cache).outcome = .ok ())
    (he : HasFault (entries before cache).cache e fault) (after : List (String × MatchEntry)) :
    (entries (before ++ e :: after) cache).cache = (entries before cache).cache.refusing fault ∧
      (entries (before ++ e :: after) cache).outcome = .error fault := by
  obtain ⟨hcache, houtcome⟩ := entry_of_hasFault he
  obtain ⟨hlater, hstops⟩ := each_of_stop hbefore houtcome after
  exact ⟨hlater.trans hcache, hstops⟩

/-- Whatever comes of a walk, it adds patterns of its entries at most. -/
lemma mem_patterns_entries {p : String} (hp : p ∈ (entries es cache).cache.patterns) :
    p ∈ cache.patterns ∨ ∃ e ∈ es, e.2.NeedsMatcher ∧ e.2.value = p := by
  cases h : (entries es cache).outcome with
  | ok _ => exact (entries_patterns h p).mp hp
  | error fault =>
    obtain ⟨before, e, after, rfl, hbefore, he⟩ := exists_of_entries_eq_error h
    rw [(entries_of_stop hbefore he after).1, MatcherCache.patterns_refusing] at hp
    refine ((entries_patterns hbefore p).mp hp).imp_right ?_
    rintro ⟨e, he, hneeds⟩
    exact ⟨e, List.mem_append_left _ he, hneeds⟩

/-- The pattern at which an inspection stopped. -/
def refusedPattern? (i : Inspection) : Option String :=
  match i.outcome with
  | .error fault => fault.pattern?
  | .ok _ => none

lemma refusedPattern?_eq_some {i : Inspection} {p : String} (h : i.refusedPattern? = some p) :
    ∃ fault, i.outcome = .error fault ∧ fault.pattern? = some p := by
  rw [refusedPattern?] at h
  cases houtcome : i.outcome with
  | error fault =>
    rw [houtcome] at h
    exact ⟨fault, rfl, h⟩
  | ok _ =>
    rw [houtcome] at h
    cases h

/-- The cache that a walk through entries leaves behind when a fault stops it. -/
structure StoppedBy (fault : RuleError) (es : List (String × MatchEntry))
    (cache later : MatcherCache) : Prop where
  /-- The fault is that of an entry. -/
  named : ∃ e ∈ es, HasFault cache e fault
  not_cached : ∀ p cause, fault = .invalidPattern p cause → p ∉ later.patterns
  added : ∀ p ∈ later.patterns, p ∈ cache.patterns ∨
    (∃ e ∈ es, e.2.NeedsMatcher ∧ e.2.value = p) ∧ ∃ regex, cache.compile p = .ok regex

theorem stoppedBy_of_entries (h : (entries es cache).outcome = .error fault) :
    StoppedBy fault es cache (entries es cache).cache := by
  have hgrows := entries_grows es cache
  obtain ⟨before, e, after, rfl, hbefore, he⟩ := exists_of_entries_eq_error h
  refine ⟨⟨e, by simp, (entries_grows before cache).hasFault he⟩, ?_, ?_⟩
  · rintro p cause rfl
    rw [(entries_of_stop hbefore he after).1, MatcherCache.patterns_refusing]
    cases he with
    | refused _ hnone _ => exact hnone
  · intro p hp
    by_cases hold : p ∈ cache.patterns
    · exact .inl hold
    · have hentry := (mem_patterns_entries hp).resolve_left hold
      have hregex := (hgrows.serves_iff.mp (.inl hp)).resolve_left hold
      exact .inr ⟨hentry, hregex⟩

/-! ### What a walk compiles -/

/-- The patterns of entries that need a matcher, are not cached and compile. -/
def missing (es : List (String × MatchEntry)) (cache : MatcherCache) : Finset String :=
  ((es.filter (·.2.NeedsMatcher)).map (·.2.value)).toFinset.filter fun p =>
    p ∉ cache.patterns ∧ (cache.compile p).isOk

lemma mem_missing {p : String} : p ∈ missing es cache ↔
    (∃ e ∈ es, e.2.NeedsMatcher ∧ e.2.value = p) ∧ p ∉ cache.patterns ∧
      (cache.compile p).isOk := by
  simp only [missing, Finset.mem_filter, List.mem_toFinset, List.mem_map, List.mem_filter,
    decide_eq_true_eq, and_assoc]

lemma missing_of_perm (h : es.Perm others) : missing es cache = missing others cache := by
  ext p
  simp only [mem_missing, h.mem_iff]

lemma missing_cons_of_not (h : e.2.NeedsMatcher → e.2.value ∈ cache.patterns) :
    missing (e :: es) cache = missing es cache := by
  ext p
  rw [mem_missing, mem_missing, List.exists_mem_cons_iff]
  constructor
  · rintro ⟨⟨hneeds, rfl⟩ | hlater, hnone, hregex⟩
    · exact absurd (h hneeds) hnone
    · exact ⟨hlater, hnone, hregex⟩
  · rintro ⟨hlater, hnone, hregex⟩
    exact ⟨.inr hlater, hnone, hregex⟩

lemma missing_cons_of_storing {regex : Regex} (hneeds : e.2.NeedsMatcher)
    (hnone : e.2.value ∉ cache.patterns) (hregex : cache.compile e.2.value = .ok regex) :
    missing (e :: es) cache = insert e.2.value (missing es (cache.storing e.2.value regex)) := by
  ext p
  rw [Finset.mem_insert, mem_missing, mem_missing, List.exists_mem_cons_iff,
    MatcherCache.mem_patterns_storing]
  constructor
  · rintro ⟨⟨-, rfl⟩ | hlater, hnone', hregex'⟩
    · exact .inl rfl
    · by_cases hp : p = e.2.value
      · exact .inl hp
      · exact .inr ⟨hlater, not_or.mpr ⟨hnone', Ne.symm hp⟩, hregex'⟩
  · rintro (rfl | ⟨hlater, hnone', hregex'⟩)
    · exact ⟨.inl ⟨hneeds, rfl⟩, hnone, by rw [hregex]; rfl⟩
    · exact ⟨.inr hlater, (not_or.mp hnone').1, hregex'⟩

/-- An entry that comes through compiles its pattern if it is missing, which it is no more. -/
lemma compilations_entry (hok : (entry e cache).outcome = .ok ()) :
    (entry e cache).cache.compilations + (missing es (entry e cache).cache).card =
      cache.compilations + (missing (e :: es) cache).card := by
  rcases entry_cases e cache with ⟨-, hentry⟩ | ⟨hneeds, -, hentry⟩ | ⟨hneeds, -, hentry⟩ <;>
    rw [hentry] at hok ⊢
  · cases hok
  · rw [pattern] at hok ⊢
    rcases cache.getOrCompile_cases e.2.value with ⟨m, hm, hget⟩ | ⟨cause, -, -, hget⟩ |
      ⟨regex, hnone, hregex, hget⟩ <;> rw [hget] at hok ⊢
    · rw [missing_cons_of_not fun _ => MatcherCache.exists_get?_eq_some.mp ⟨m, hm⟩]
    · cases hok
    · have hnew : e.2.value ∉ missing es (cache.storing e.2.value regex) := by
        rw [mem_missing, MatcherCache.mem_patterns_storing]
        rintro ⟨-, hnone, -⟩
        exact hnone (.inr rfl)
      have hcount : (cache.storing e.2.value regex).compilations = cache.compilations + 1 := rfl
      rw [missing_cons_of_storing hneeds (MatcherCache.get?_eq_none.mp hnone) hregex,
        Finset.card_insert_of_notMem hnew]
      dsimp only
      omega
  · rw [missing_cons_of_not fun h => absurd h hneeds]
    rfl

/-- A walk that comes through compiles each missing pattern once, and nothing else. -/
theorem compilations_entries (hok : (entries es cache).outcome = .ok ()) :
    (entries es cache).cache.compilations = cache.compilations + (missing es cache).card := by
  unfold entries at hok ⊢
  induction es generalizing cache with
  | nil => rfl
  | cons e es ih =>
    rw [each] at hok ⊢
    obtain ⟨hfirst, hrest⟩ := andThen_outcome_eq_ok.mp hok
    rw [andThen_of_ok hfirst, ih hrest, compilations_entry hfirst]

/-! ### The order of a walk -/

lemma mem_patterns_entries_of_perm (horder : es.Perm others)
    (hfirst : (entries es cache).outcome = .ok ())
    (hsecond : (entries others cache).outcome = .ok ()) (p : String) :
    p ∈ (entries es cache).cache.patterns ↔ p ∈ (entries others cache).cache.patterns := by
  rw [entries_patterns hfirst, entries_patterns hsecond]
  simp only [horder.mem_iff]

/-- In two orders of visiting entries, the walk comes through in both or in neither, and keeps the
matchers that are cached. If it comes through, the same patterns have the same regular expressions
behind it, and each missing pattern was compiled once. If it does not, the error names an entry that
is at fault; its pattern is not cached, and nothing but patterns of the entries that compile is
added. -/
theorem entries_anyOrder (horder : es.Perm others) (cache : MatcherCache) :
    let first := entries es cache
    let second := entries others cache
    (first.outcome = .ok () ↔ second.outcome = .ok ()) ∧
      first.cache.Extends cache ∧ second.cache.Extends cache ∧
      (first.outcome = .ok () →
        (∀ p, (first.cache.get? p).map (·.regex) = (second.cache.get? p).map (·.regex)) ∧
        first.cache.compilations = cache.compilations + (missing es cache).card ∧
        second.cache.compilations = cache.compilations + (missing es cache).card) ∧
      (∀ fault, first.outcome = .error fault → StoppedBy fault es cache first.cache) ∧
      ∀ fault, second.outcome = .error fault → StoppedBy fault es cache second.cache := by
  intro first second
  have hfirst : first.cache.Grows cache := entries_grows es cache
  have hsecond : second.cache.Grows cache := entries_grows others cache
  have houtcome : first.outcome = .ok () ↔ second.outcome = .ok () := by
    rw [entries_outcome, entries_outcome]
    simp only [horder.mem_iff]
  refine ⟨houtcome, hfirst.keeps, hsecond.keeps, ?_, fun _ h => stoppedBy_of_entries h, ?_⟩
  · intro hok
    have hok' := houtcome.mp hok
    refine ⟨hfirst.map_regex_get?_eq hsecond (mem_patterns_entries_of_perm horder hok hok'),
      compilations_entries hok, ?_⟩
    rw [missing_of_perm horder]
    exact compilations_entries hok'
  · intro fault hfault
    obtain ⟨⟨e, he, hnamed⟩, hnone, hadded⟩ := stoppedBy_of_entries hfault
    refine ⟨⟨e, horder.mem_iff.mpr he, hnamed⟩, hnone, ?_⟩
    simp only [horder.mem_iff]
    exact hadded

/-- Two fields of one pattern and one of another: the two patterns are compiled once each. Among
entries with two faults the first one that is visited is named. -/
theorem entries_twoOrders :
    let cache := MatcherCache.ofConfig .default
    let sound : List (String × MatchEntry) :=
      [("path", ⟨.regex, .text, "ab"⟩), ("user", ⟨.regex, .text, "cd"⟩),
        ("zone", ⟨.regex, .text, "ab"⟩)]
    let faulty : List (String × MatchEntry) :=
      [("path", ⟨.regex, .text, "("⟩), ("zone", ⟨.exact, .variableName, ""⟩)]
    sound.Perm sound.reverse ∧ faulty.Perm faulty.reverse ∧
      (entries sound cache).outcome = .ok () ∧
      (entries sound.reverse cache).cache.compilations =
        (entries sound cache).cache.compilations ∧
      (entries faulty.reverse cache).outcome = .error (.malformedReference "zone") ∧
      ∃ fault, (entries faulty cache).outcome = .error fault ∧
        fault.pattern? = some "(" ∧ StoppedBy fault faulty cache (entries faulty cache).cache := by
  intro cache sound faulty
  have hsound : sound.Perm sound.reverse := sound.reverse_perm.symm
  have hfaulty : faulty.Perm faulty.reverse := faulty.reverse_perm.symm
  have hok : (entries sound cache).outcome = .ok () := by cbv
  have hzone : (entries faulty.reverse cache).outcome = .error (.malformedReference "zone") := by
    cbv
  have hpattern : (entries faulty cache).refusedPattern? = some "(" := by cbv
  obtain ⟨-, -, -, hcompiled, -⟩ := entries_anyOrder hsound cache
  obtain ⟨-, -, -, -, hstopped, -⟩ := entries_anyOrder hfaulty cache
  obtain ⟨-, hfirst, hsecond⟩ := hcompiled hok
  obtain ⟨fault, hfault, hrefused⟩ := refusedPattern?_eq_some hpattern
  exact ⟨hsound, hfaulty, hok, hsecond.trans hfirst.symm, hzone, fault, hfault, hrefused,
    hstopped fault hfault⟩

end Inspection

end RuleIntake
