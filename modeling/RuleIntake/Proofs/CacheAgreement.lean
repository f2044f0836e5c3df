import Mathlib
import RuleIntake.Proofs.CacheRuns
import RuleIntake.Proofs.DocumentSoundness

/-!
# Look-ups agree with the compiler

A cache into which nothing is put holds what its compiler makes of patterns. Looking up a pattern is
then as good as compiling it, and an inspection finds the fault that the entries have by the
compiler alone, whatever was looked up or inspected before.
-/

namespace RuleIntake

/-! ### Faults of entries -/

namespace MatchEntry

instance (e : MatchEntry) : Decidable e.LacksName := inferInstanceAs (Decidable (_ ∧ _ ∧ _))

/-- What is wrong with the entry of a field, by a compiler. -/
def fault? (compile : String → Except Pattern.CompileError Regex) (e : String × MatchEntry) :
    Option RuleError :=
  if e.2.LacksName then some (.malformedReference e.1)
  else if e.2.NeedsMatcher then
    match compile e.2.value with
    | .error cause => some (.invalidPattern e.2.value cause)
    | .ok _ => none
  else none

end MatchEntry

namespace Inspection

/-- The outcome of an inspection that comes upon a fault or upon none. -/
def outcomeOf : Option RuleError → Except RuleError Unit
  | some fault => .error fault
  | none => .ok ()

/-- The matchers that are told of: those of the entries before the first fault. -/
def readyEvents (compile : String → Except Pattern.CompileError Regex) (previewLength : Nat)
    (es : List (String × MatchEntry)) : List Event :=
  ((es.takeWhile fun e => (MatchEntry.fault? compile e).isNone).filter fun e =>
    e.2.NeedsMatcher).map fun e => .matcherReady e.1 e.2.value previewLength

end Inspection

/-! ### Faithful caches -/

namespace MatcherCache

/-- All that is cached is what the compiler of the cache makes of the patterns. -/
def IsFaithful (cache : MatcherCache) : Prop :=
  ∀ e ∈ cache.entries, cache.compile e.1 = .ok e.2.regex

variable {cache later : MatcherCache} {p : String} {m : Matcher}

lemma isFaithful_ofConfig (config : Config) : (ofConfig config).IsFaithful := by
  intro e he
  cases he

lemma Grows.isFaithful (h : later.Grows cache) (hcache : cache.IsFaithful) :
    later.IsFaithful := by
  intro e he
  rw [h.compile]
  rcases h.compiled e he with hold | hnew
  · exact hcache e hold
  · exact hnew

lemma mem_entries_of_get? (h : cache.get? p = some m) : (p, m) ∈ cache.entries := by
  obtain ⟨before, after, hentries, -⟩ := List.lookup_eq_some_iff.mp h
  rw [hentries]
  simp

/-- A faithful cache answers a look-up as its compiler would. -/
lemma IsFaithful.map_getOrCompile (h : cache.IsFaithful) (p : String) :
    (cache.getOrCompile p).1.map (·.regex) = cache.compile p := by
  rcases cache.getOrCompile_cases p with ⟨kept, hkept, hget⟩ | ⟨fault, -, hfault, hget⟩ |
    ⟨regex, -, hregex, hget⟩ <;> rw [hget]
  · exact (h _ (mem_entries_of_get? hkept)).symm
  · exact hfault.symm
  · exact hregex.symm

lemma IsFaithful.getOrCompile_eq_error (h : cache.IsFaithful) {fault : Pattern.CompileError} :
    (cache.getOrCompile p).1 = .error fault ↔ cache.compile p = .error fault := by
  rw [← h.map_getOrCompile p]
  cases (cache.getOrCompile p).1 <;> simp [Except.map]

lemma IsFaithful.compile_of_getOrCompile (h : cache.IsFaithful)
    (hm : (cache.getOrCompile p).1 = .ok m) : cache.compile p = .ok m.regex := by
  rw [← h.map_getOrCompile p, hm]
  rfl

end MatcherCache

/-! ### Inspections -/

namespace Inspection

variable {cache : MatcherCache}

lemma entry_eq_fault? (h : cache.IsFaithful) (e : String × MatchEntry) :
    (entry e cache).outcome = outcomeOf (MatchEntry.fault? cache.compile e) ∧
      (entry e cache).events =
        if (MatchEntry.fault? cache.compile e).isNone ∧ e.2.NeedsMatcher then
          [.matcherReady e.1 e.2.value cache.previewLength]
        else [] := by
  rw [MatchEntry.fault?]
  rcases entry_cases e cache with ⟨hname, hentry⟩ | ⟨hneeds, hname, hentry⟩ |
    ⟨hneeds, hname, hentry⟩ <;> rw [hentry]
  · simp [hname, outcomeOf]
  · rw [if_neg hname, if_pos hneeds]
    rcases pattern_cases e.1 e.2.value cache with ⟨m, hm, hp⟩ | ⟨fault, hfault, hp⟩ <;> rw [hp]
    · have hlength := (cache.getOrCompile_grows e.2.value).previewLength
      simp [h.compile_of_getOrCompile hm, hneeds, hlength, outcomeOf]
    · simp [h.getOrCompile_eq_error.mp hfault, outcomeOf]
  · simp [hname, hneeds, clean, outcomeOf]

/-- An inspection by a faithful cache finds the first fault of the entries, and tells of the
matchers before it. -/
theorem entries_eq_findSome? (h : cache.IsFaithful) (es : List (String × MatchEntry)) :
    (entries es cache).outcome = outcomeOf (es.findSome? (MatchEntry.fault? cache.compile)) ∧
      (entries es cache).events = readyEvents cache.compile cache.previewLength es := by
  unfold entries
  induction es generalizing cache with
  | nil => exact ⟨rfl, rfl⟩
  | cons e es ih =>
    obtain ⟨houtcome, hevents⟩ := entry_eq_fault? h e
    have hgrows := entry_grows e cache
    rw [each, List.findSome?_cons, readyEvents, List.takeWhile_cons]
    cases hfault : MatchEntry.fault? cache.compile e with
    | some fault =>
      rw [hfault] at houtcome hevents
      rw [andThen_of_error houtcome]
      exact ⟨houtcome, by simpa using hevents⟩
    | none =>
      rw [hfault] at houtcome hevents
      obtain ⟨hrest, hmore⟩ := ih (hgrows.isFaithful h)
      rw [hgrows.compile] at hrest hmore
      rw [hgrows.previewLength] at hmore
      rw [andThen_of_ok houtcome]
      refine ⟨hrest, ?_⟩
      rw [hevents, hmore, readyEvents]
      by_cases hneeds : e.2.NeedsMatcher <;> simp [hneeds]

end Inspection

/-! ### Runs -/

namespace CacheCall

open Inspection

lemma perform_grows {call : CacheCall} (hput : ∀ p m, call ≠ put p m) (cache : MatcherCache) :
    (call.perform cache).Grows cache := by
  cases call with
  | get p => exact .refl cache
  | contains p => exact .refl cache
  | put p m => exact absurd rfl (hput p m)
  | getOrCompile p => exact cache.getOrCompile_grows p
  | inspect es => exact entries_grows es cache

lemma run_grows {calls : List CacheCall} (hput : ∀ p m, put p m ∉ calls) (cache : MatcherCache) :
    (run calls cache).Grows cache := by
  induction calls generalizing cache with
  | nil => exact .refl cache
  | cons call calls ih =>
    have hcall (p : String) (m : Matcher) : call ≠ put p m := by
      rintro rfl
      exact hput p m List.mem_cons_self
    have hrest (p : String) (m : Matcher) : put p m ∉ calls := by
      intro hm
      exact hput p m (List.mem_cons_of_mem _ hm)
    exact (ih hrest (call.perform cache)).trans (perform_grows hcall cache)

/-- Whatever was looked up and inspected before, with success or not, entries in any order are
inspected as by an empty cache: the outcome is the same and the same is told. A pattern is served
exactly if it compiles, with the same fault otherwise, and by a matcher that is made from it and
matches what the compiled pattern matches. -/
theorem run_agrees_with_compiler (config : Config) (calls : List CacheCall)
    (hput : ∀ p m, put p m ∉ calls) (es : List (String × MatchEntry)) (p : String) :
    let cache := run calls (.ofConfig config)
    (entries es cache).outcome = (entries es (.ofConfig config)).outcome ∧
      (entries es cache).events = (entries es (.ofConfig config)).events ∧
      ((∃ m, (cache.getOrCompile p).1 = .ok m) ↔ ∃ regex, config.compile p = .ok regex) ∧
      (∀ fault, (cache.getOrCompile p).1 = .error fault ↔ config.compile p = .error fault) ∧
      ∀ m, (cache.getOrCompile p).1 = .ok m → m.regex.source = p ∧
        ∀ regex, config.compile p = .ok regex →
          ∀ text, m.regex.isMatch text = regex.isMatch text := by
  intro cache
  have hstart := MatcherCache.isFaithful_ofConfig config
  have hgrows : cache.Grows (.ofConfig config) := run_grows hput _
  have hcache : cache.IsFaithful := hgrows.isFaithful hstart
  have hcompile : cache.compile = config.compile := hgrows.compile
  obtain ⟨houtcome, hevents⟩ := entries_eq_findSome? hcache es
  obtain ⟨hfresh, htold⟩ := entries_eq_findSome? hstart es
  rw [hgrows.compile] at houtcome hevents
  rw [hgrows.previewLength] at hevents
  refine ⟨houtcome.trans hfresh.symm, hevents.trans htold.symm, ?_, ?_, ?_⟩
  · rw [← hcompile, ← hcache.map_getOrCompile p]
    cases (cache.getOrCompile p).1 <;> simp [Except.map]
  · intro fault
    rw [← hcompile]
    exact hcache.getOrCompile_eq_error
  · intro m hm
    have hmatcher : config.compile p = .ok m.regex := hcompile ▸ hcache.compile_of_getOrCompile hm
    refine ⟨Pattern.source_of_compile hmatcher, fun regex hregex text => ?_⟩
    have hsame : regex = m.regex := Except.ok.inj (hregex.symm.trans hmatcher)
    rw [hsame]

/-- An inspection that fails half-way and a look-up that fails. -/
def halfInspected : List CacheCall :=
  [inspect [("path", ⟨.regex, .text, "ab"⟩), ("host", ⟨.regex, .text, "("⟩),
    ("user", ⟨.regex, .text, "cd"⟩)], getOrCompile "("]

/-- What is left in the cache then does not hide the fault of a variable without a name. -/
theorem run_halfInspected_agrees :
    let cache := run halfInspected (.ofConfig .default)
    let es := [("user", ⟨.regex, .text, "ab"⟩), ("zone", ⟨.exact, .variableName, ""⟩)]
    (∀ p m, put p m ∉ halfInspected) ∧ cache.patterns = ["ab"] ∧
      (entries es cache).outcome = .error (.malformedReference "zone") ∧
      ∃ m, (cache.getOrCompile "ab").1 = .ok m ∧ m.regex.source = "ab" := by
  have hpatterns : (run halfInspected (.ofConfig .default)).patterns = ["ab"] := by cbv
  intro cache es
  have hput (p : String) (m : Matcher) : put p m ∉ halfInspected := by simp [halfInspected]
  obtain ⟨houtcome, -, hserved, -, hsource⟩ :=
    run_agrees_with_compiler .default halfInspected hput es "ab"
  have hfresh :
      (entries es (.ofConfig .default)).outcome = .error (.malformedReference "zone") := by
    cbv
  have hcompiles : (Config.default.compile "ab").isOk = true := by cbv
  refine ⟨hput, hpatterns, houtcome.trans hfresh, ?_⟩
  cases hregex : Config.default.compile "ab" with
  | error fault =>
    rw [hregex] at hcompiles
    cases hcompiles
  | ok regex =>
    obtain ⟨m, hm⟩ := hserved.mpr ⟨regex, hregex⟩
    exact ⟨m, hm, (hsource m hm).1⟩

end CacheCall

end RuleIntake
