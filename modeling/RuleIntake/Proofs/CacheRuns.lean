import Mathlib.Tactic.Common
import RuleIntake.Proofs.InspectionWalk

/-!
# Runs of a matcher cache

A cache is called in any order. Behind the calls is a history of matchers that are put and patterns
that are looked up, inspections being walks that look up one pattern after the other. Over a whole
run the first matcher of a pattern stays, and patterns are compiled when they are looked up and are
not cached.
-/

namespace RuleIntake

instance (e : MatchEntry) : Decidable e.NeedsMatcher := inferInstanceAs (Decidable (_ ∧ _))

/-- What can be asked of a cache. -/
inductive CacheCall
  | get (p : String)
  | contains (p : String)
  | put (p : String) (m : Matcher)
  | getOrCompile (p : String)
  /-- An inspection of entries in the given order. -/
  | inspect (es : List (String × MatchEntry))

inductive CacheAction
  | put (p : String) (m : Matcher)
  | lookUp (p : String)

/-- A pattern that was looked up. It is fresh if it was not cached at that moment. -/
structure LookUp where
  pattern : String
  fresh : Bool
deriving DecidableEq

/-! ### Histories -/

namespace CacheAction

def perform : CacheAction → MatcherCache → MatcherCache
  | put p m, cache => (cache.put p m).2
  | lookUp p, cache => (cache.getOrCompile p).2

def replay (actions : List CacheAction) (cache : MatcherCache) : MatcherCache :=
  actions.foldl (fun cache action => action.perform cache) cache

def lookUps : List CacheAction → MatcherCache → List LookUp
  | [], _ => []
  | put p m :: rest, cache => lookUps rest (cache.put p m).2
  | lookUp p :: rest, cache => ⟨p, !cache.contains p⟩ :: lookUps rest (cache.getOrCompile p).2

/-- The matchers that are offered to a cache by actions: those that are put, and those of patterns
that are looked up, not cached and compile. -/
def offers : List CacheAction → MatcherCache → List (String × Matcher)
  | [], _ => []
  | put p m :: rest, cache => (p, m) :: offers rest (cache.put p m).2
  | lookUp p :: rest, cache =>
    match cache.get? p, cache.getOrCompile p with
    | none, (.ok m, later) => (p, m) :: offers rest later
    | _, (_, later) => offers rest later

end CacheAction

/-- The patterns that a walk through entries looks up, up to the first entry that is not sound. -/
def Inspection.patternsLookedUp : List (String × MatchEntry) → MatcherCache → List String
  | [], _ => []
  | e :: rest, cache =>
    (if e.2.NeedsMatcher then [e.2.value] else []) ++
      match (entry e cache).outcome with
      | .error _ => []
      | .ok _ => patternsLookedUp rest (entry e cache).cache

namespace CacheCall

def perform : CacheCall → MatcherCache → MatcherCache
  | get _, cache => cache
  | contains _, cache => cache
  | put p m, cache => (cache.put p m).2
  | getOrCompile p, cache => (cache.getOrCompile p).2
  | inspect es, cache => (Inspection.entries es cache).cache

def run (calls : List CacheCall) (cache : MatcherCache) : MatcherCache :=
  calls.foldl (fun cache call => call.perform cache) cache

def actions : CacheCall → MatcherCache → List CacheAction
  | get _, _ => []
  | contains _, _ => []
  | put p m, _ => [.put p m]
  | getOrCompile p, _ => [.lookUp p]
  | inspect es, cache => (Inspection.patternsLookedUp es cache).map .lookUp

/-- What calls do to a cache. -/
def history : List CacheCall → MatcherCache → List CacheAction
  | [], _ => []
  | call :: rest, cache => call.actions cache ++ history rest (call.perform cache)

end CacheCall

open CacheAction

lemma CacheAction.replay_append (before after : List CacheAction) (cache : MatcherCache) :
    replay (before ++ after) cache = replay after (replay before cache) :=
  List.foldl_append

/-- A walk does to a cache what its look-ups do. -/
lemma Inspection.replay_patternsLookedUp (es : List (String × MatchEntry)) (cache : MatcherCache) :
    replay ((patternsLookedUp es cache).map .lookUp) cache = (entries es cache).cache := by
  unfold entries
  induction es generalizing cache with
  | nil => rfl
  | cons e es ih =>
    have hentry : replay ((if e.2.NeedsMatcher then [e.2.value] else []).map .lookUp) cache =
        (entry e cache).cache := by
      rcases entry_cases e cache with ⟨hname, h⟩ | ⟨hneeds, -, h⟩ | ⟨hneeds, -, h⟩ <;> rw [h]
      · rw [if_neg hname.not_needsMatcher]
        rfl
      · rw [if_pos hneeds]
        rcases pattern_cases e.1 e.2.value cache with ⟨m, -, hp⟩ | ⟨fault, -, hp⟩ <;> rw [hp]
        · rfl
        · rfl
      · rw [if_neg hneeds]
        rfl
    rw [patternsLookedUp, List.map_append, replay_append, hentry, each]
    cases h : (entry e cache).outcome with
    | error fault =>
      rw [andThen_of_error h]
      rfl
    | ok _ =>
      rw [andThen_of_ok h]
      exact ih _

namespace CacheCall

lemma replay_actions (call : CacheCall) (cache : MatcherCache) :
    replay (call.actions cache) cache = call.perform cache := by
  cases call with
  | inspect es => exact Inspection.replay_patternsLookedUp es cache
  | _ => rfl

theorem replay_history (calls : List CacheCall) (cache : MatcherCache) :
    replay (history calls cache) cache = run calls cache := by
  induction calls generalizing cache with
  | nil => rfl
  | cons call calls ih =>
    rw [history, replay_append, replay_actions, ih]
    rfl

end CacheCall

/-! ### Laws of histories -/

namespace CacheAction

lemma replay_cons (action : CacheAction) (rest : List CacheAction) (cache : MatcherCache) :
    replay (action :: rest) cache = replay rest (action.perform cache) := rfl

lemma perform_extends (action : CacheAction) (cache : MatcherCache) :
    (action.perform cache).Extends cache := by
  cases action with
  | put p m => exact cache.put_extends p m
  | lookUp p => exact cache.getOrCompile_extends p

lemma replay_extends (actions : List CacheAction) (cache : MatcherCache) :
    (replay actions cache).Extends cache := by
  induction actions generalizing cache with
  | nil => exact .refl cache
  | cons action rest ih =>
    have hfirst := action.perform_extends cache
    have hrest := ih (action.perform cache)
    exact hrest.trans hfirst

lemma perform_compile (action : CacheAction) (cache : MatcherCache) :
    (action.perform cache).compile = cache.compile := by
  cases action with
  | put p m => exact cache.put_compile p m
  | lookUp p => exact (cache.getOrCompile_grows p).compile

lemma replay_compile (actions : List CacheAction) (cache : MatcherCache) :
    (replay actions cache).compile = cache.compile := by
  induction actions generalizing cache with
  | nil => rfl
  | cons action rest ih => rw [replay_cons, ih, perform_compile]

/-- The matcher of a pattern is the first one that was offered for it. -/
lemma get?_replay (actions : List CacheAction) (cache : MatcherCache) (q : String) :
    (replay actions cache).get? q = (cache.get? q).or ((offers actions cache).lookup q) := by
  induction actions generalizing cache with
  | nil =>
    rw [offers, List.lookup_nil, Option.or_none]
    rfl
  | cons action rest ih =>
    rw [replay_cons, ih]
    cases action with
    | put p m =>
      rw [perform, offers]
      rcases cache.put_cases p m with ⟨kept, hkept, hput⟩ | ⟨hnone, hput⟩ <;> rw [hput]
      · by_cases hq : q = p
        · rw [hq, hkept, Option.some_or, Option.some_or]
        · rw [List.lookup_cons, beq_eq_false_iff_ne.mpr hq]
      · rw [MatcherCache.get?_adding, Option.or_assoc, ← List.lookup_append]
        rfl
    | lookUp p =>
      rw [perform, offers]
      rcases cache.getOrCompile_cases p with ⟨kept, hkept, h⟩ | ⟨fault, hnone, -, h⟩ |
        ⟨regex, hnone, -, h⟩ <;> rw [h]
      · rw [hkept]
      · rw [hnone]
        rfl
      · rw [hnone]
        rw [MatcherCache.get?_storing, Option.or_assoc, ← List.lookup_append]
        rfl

lemma compilations_replay (actions : List CacheAction) (cache : MatcherCache) :
    (replay actions cache).compilations =
      cache.compilations + (lookUps actions cache).countP (·.fresh) := by
  induction actions generalizing cache with
  | nil => rfl
  | cons action rest ih =>
    rw [replay_cons, ih]
    cases action with
    | put p m => rw [perform, lookUps, cache.put_compilations]
    | lookUp p =>
      rw [perform, lookUps, List.countP_cons, MatcherCache.contains]
      rcases cache.getOrCompile_cases p with ⟨kept, hkept, h⟩ | ⟨fault, hnone, -, h⟩ |
        ⟨regex, hnone, -, h⟩ <;> rw [h]
      · simp [hkept]
      · simp only [hnone, MatcherCache.counting, Option.isSome_none, Bool.not_false, if_true]
        omega
      · simp only [hnone, MatcherCache.storing, MatcherCache.adding, MatcherCache.counting,
          Option.isSome_none, Bool.not_false, if_true]
        omega

lemma fresh_of_mem_patterns {cache : MatcherCache} {p : String} (hp : p ∈ cache.patterns)
    (actions : List CacheAction) :
    ∀ l ∈ lookUps actions cache, l.pattern = p → l.fresh = false := by
  induction actions generalizing cache with
  | nil => simp [lookUps]
  | cons action rest ih =>
    have hstill : p ∈ (action.perform cache).patterns :=
      (action.perform_extends cache).mem_patterns hp
    have hrest := ih hstill
    cases action with
    | put q m => exact hrest
    | lookUp q =>
      rw [lookUps, List.forall_mem_cons]
      refine ⟨?_, hrest⟩
      rintro rfl
      rw [MatcherCache.contains_eq_true.mpr hp, Bool.not_true]

lemma count_fresh_eq_zero {cache : MatcherCache} {p : String} (hp : p ∈ cache.patterns)
    (actions : List CacheAction) :
    (lookUps actions cache).countP (fun l => l.pattern == p && l.fresh) = 0 := by
  rw [List.countP_eq_zero]
  intro l hl
  by_cases hpattern : l.pattern = p
  · simp [fresh_of_mem_patterns hp actions l hl hpattern]
  · simp [hpattern]

/-- A pattern that compiles is compiled at most once. -/
lemma count_fresh_le_one {cache : MatcherCache} {p : String} {regex : Regex}
    (hregex : cache.compile p = .ok regex) (actions : List CacheAction) :
    (lookUps actions cache).countP (fun l => l.pattern == p && l.fresh) ≤ 1 := by
  induction actions generalizing cache with
  | nil => exact Nat.zero_le 1
  | cons action rest ih =>
    have hlater : (action.perform cache).compile p = .ok regex := by
      rw [action.perform_compile, hregex]
    cases action with
    | put q m => exact ih hlater
    | lookUp q =>
      rw [lookUps, List.countP_cons]
      by_cases hq : q = p
      · -- from now on the pattern is cached, so that no later look-up of it is fresh
        have hserves : cache.Serves q := .inr ⟨regex, hq ▸ hregex⟩
        have hmem : p ∈ (cache.getOrCompile q).2.patterns := hq ▸ hserves.mem_patterns
        rw [count_fresh_eq_zero hmem]
        split_ifs <;> omega
      · have hrest := ih hlater
        rw [perform] at hrest
        simpa [hq] using hrest

lemma not_mem_patterns_perform {cache : MatcherCache} {p : String} {fault : Pattern.CompileError}
    (hfault : cache.compile p = .error fault) (hnone : p ∉ cache.patterns) {action : CacheAction}
    (hput : ∀ m, action ≠ put p m) : p ∉ (action.perform cache).patterns := by
  cases action with
  | put q m =>
    have hq : p ≠ q := by
      rintro rfl
      exact hput m rfl
    rwa [perform, ← MatcherCache.get?_eq_none, MatcherCache.get?_put_of_ne hq,
      MatcherCache.get?_eq_none]
  | lookUp q =>
    intro hp
    rcases (cache.getOrCompile_grows q).serves_iff.mp (.inl hp) with hcached | ⟨regex, hregex⟩
    · exact hnone hcached
    · rw [hfault] at hregex
      cases hregex

/-- A pattern that does not compile is never cached unless its matcher is put, and is compiled anew
each time it is looked up. -/
lemma fresh_of_refused {cache : MatcherCache} {p : String} {fault : Pattern.CompileError}
    (hfault : cache.compile p = .error fault) (hnone : p ∉ cache.patterns)
    {actions : List CacheAction} (hput : ∀ m, put p m ∉ actions) :
    p ∉ (replay actions cache).patterns ∧
      ∀ l ∈ lookUps actions cache, l.pattern = p → l.fresh = true := by
  induction actions generalizing cache with
  | nil => exact ⟨hnone, by simp [lookUps]⟩
  | cons action rest ih =>
    have hlater : (action.perform cache).compile p = .error fault := by
      rw [action.perform_compile, hfault]
    have hrest (m : Matcher) : put p m ∉ rest := fun hm => hput m (List.mem_cons_of_mem _ hm)
    have hstill : p ∉ (action.perform cache).patterns :=
      not_mem_patterns_perform hfault hnone fun m hm => hput m (hm ▸ List.mem_cons_self)
    obtain ⟨hlast, hfresh⟩ := ih hlater hstill hrest
    refine ⟨hlast, ?_⟩
    cases action with
    | put q m => exact hfresh
    | lookUp q =>
      rw [lookUps, List.forall_mem_cons]
      refine ⟨?_, hfresh⟩
      rintro rfl
      rw [Bool.not_eq_true', ← Bool.not_eq_true, MatcherCache.contains_eq_true]
      exact hnone

end CacheAction

/-! ### Laws of runs -/

namespace CacheCall

lemma put_mem_of_mem_history {p : String} {m : Matcher} {calls : List CacheCall}
    {cache : MatcherCache} (h : .put p m ∈ history calls cache) : put p m ∈ calls := by
  induction calls generalizing cache with
  | nil => cases h
  | cons call calls ih =>
    rw [history, List.mem_append] at h
    rw [List.mem_cons]
    rcases h with hcall | hlater
    · left
      cases call with
      | put q n =>
        cases List.mem_singleton.mp hcall
        rfl
      | inspect es =>
        obtain ⟨_, -, hlookUp⟩ := List.mem_map.mp hcall
        cases hlookUp
      | getOrCompile q => cases List.mem_singleton.mp hcall
      | get q => cases hcall
      | contains q => cases hcall
    · right
      exact ih hlater

lemma run_extends (calls : List CacheCall) (cache : MatcherCache) :
    (run calls cache).Extends cache := by
  rw [← replay_history]
  exact replay_extends _ cache

/-- What calls in any order do to an empty cache over a compiler, and what holds whatever is called
later. -/
theorem run_laws (compile : String → Except Pattern.CompileError Regex)
    (calls later : List CacheCall) (p : String) :
    let start := MatcherCache.withCompiler compile
    let cache := run calls start
    let past := history calls start
    -- what is cached stays cached under the same matcher
    (∀ q m, cache.get? q = some m → (run later cache).get? q = some m) ∧
    -- that matcher is the first one that was put or compiled, and putting another one returns it
    cache.get? p = (offers past start).lookup p ∧
    (∀ m, (cache.put p m).1 = ((offers past start).lookup p).getD m ∧
      (run later (cache.put p m).2).get? p = some (cache.put p m).1) ∧
    -- a pattern is served if it is cached or compiles, by the matcher that it has from then on
    ((∃ m, (cache.getOrCompile p).1 = .ok m) ↔
      (∃ m, cache.get? p = some m) ∨ ∃ regex, compile p = .ok regex) ∧
    (∀ m, (cache.getOrCompile p).1 = .ok m →
      (run later (cache.getOrCompile p).2).get? p = some m) ∧
    -- each look-up of a pattern that is not cached is a compilation: one if the pattern compiles,
    -- and one for each look-up if it does not and is not put
    cache.compilations = (lookUps past start).countP (·.fresh) ∧
    (∀ regex, compile p = .ok regex →
      (lookUps past start).countP (fun l => l.pattern == p && l.fresh) ≤ 1) ∧
    (∀ fault, compile p = .error fault → (∀ m, put p m ∉ calls) →
      cache.get? p = none ∧ ∀ l ∈ lookUps past start, l.pattern = p → l.fresh = true) ∧
    -- a compilation that fails is counted, and nothing else
    (∀ fault, (cache.getOrCompile p).1 = .error fault →
      (cache.getOrCompile p).2 = { cache with compilations := cache.compilations + 1 }) := by
  intro start cache past
  have hcache : replay past start = cache := replay_history calls start
  have hcompile : cache.compile = compile := by
    rw [← hcache, replay_compile]
    rfl
  have hfirst : cache.get? p = (offers past start).lookup p := by
    rw [← hcache, get?_replay]
    rfl
  refine ⟨run_extends later cache, hfirst, ?_, ?_, ?_, ?_, ?_, ?_, ?_⟩
  · intro m
    constructor
    · rw [cache.fst_put, hfirst]
    · have hput := cache.get?_put p m
      exact run_extends later _ p _ hput
  · rw [MatcherCache.exists_getOrCompile_eq_ok, MatcherCache.Serves,
      MatcherCache.exists_get?_eq_some, hcompile]
  · intro m hm
    have hget := MatcherCache.get?_getOrCompile hm
    exact run_extends later _ p m hget
  · rw [← hcache, compilations_replay]
    exact Nat.zero_add _
  · intro regex hregex
    exact count_fresh_le_one hregex past
  · intro fault hfault hput
    have hstart : p ∉ start.patterns := by rintro ⟨⟩
    obtain ⟨hlast, hfresh⟩ := fresh_of_refused hfault hstart
      fun m hm => hput m (put_mem_of_mem_history hm)
    rw [hcache] at hlast
    exact ⟨MatcherCache.get?_eq_none.mpr hlast, hfresh⟩
  · intro fault hfault
    rcases cache.getOrCompile_cases p with ⟨kept, -, h⟩ | ⟨_, -, -, h⟩ | ⟨regex, -, -, h⟩ <;>
      rw [h] at hfault ⊢
    · cases hfault
    · rfl
    · cases hfault

/-- The pattern that is refused is compiled each time, the other one once. -/
example :
    let compile (p : String) : Except Pattern.CompileError Regex :=
      if p = "" then .error (.tooBig 0) else .ok ⟨p, .empty⟩
    (run [.getOrCompile "", .getOrCompile "a", .inspect [("field", ⟨.regex, .text, "a"⟩)],
      .inspect [("field", ⟨.regex, .text, ""⟩)]] (.withCompiler compile)).compilations = 3 := rfl

end CacheCall

end RuleIntake
