import Mathlib
import RuleIntake.Proofs.Revalidation
import RuleIntake.Proofs.ValidationOrders

/-!
# Validating twice in a row

A second validation comes to what the first one came to, and leaves the document as the first one
left it. The rules are complete and in order already, and the walk through their entries stops where
it stopped before: the matchers that the first walk added are those of the entries that it passed,
and these were not at fault. In which order the entries of a map are visited does not matter, as
long as it stays the same.
-/

namespace RuleIntake

open MatchEntry

/-! ### Faults that stay -/

namespace MatcherCache

variable {cache : MatcherCache} {fault : RuleError}

lemma refusing_extends (cache : MatcherCache) (fault : RuleError) :
    (cache.refusing fault).Extends cache := by
  cases fault <;> exact .refl cache

lemma hasFault_refusing {e : String × MatchEntry} (h : HasFault cache e fault) :
    HasFault (cache.refusing fault) e fault := by
  cases h with
  | nameless hname => exact .nameless hname
  | refused hneeds hnone hcause => exact .refused hneeds hnone hcause

end MatcherCache

/-! ### Inspecting twice -/

namespace Inspection

variable {first second : Inspection}

/-- An inspection that is made again comes to what it came to before and leaves the cache as it was.
A pattern that was refused is compiled in vain once more. -/
structure IsRepeatedBy (first second : Inspection) : Prop where
  outcome : second.outcome = first.outcome
  cache : second.cache = first.cache ∨
    (∃ p cause, first.outcome = .error (.invalidPattern p cause)) ∧
      second.cache = first.cache.counting

lemma IsRepeatedBy.of_ok (hcache : second.cache = first.cache) (hfirst : first.outcome = .ok ())
    (hsecond : second.outcome = .ok ()) : first.IsRepeatedBy second :=
  ⟨hsecond.trans hfirst.symm, .inl hcache⟩

lemma IsRepeatedBy.of_error {fault : RuleError} (hcache : second.cache = first.cache.refusing fault)
    (hfirst : first.outcome = .error fault) (hsecond : second.outcome = .error fault) :
    first.IsRepeatedBy second := by
  refine ⟨hsecond.trans hfirst.symm, ?_⟩
  cases fault with
  | invalidPattern p cause => exact .inr ⟨⟨p, cause, hfirst⟩, hcache⟩
  | _ => exact .inl hcache

/-- What comes through is served by the cache then, and an entry at which a walk stopped is at fault
still. -/
theorem entries_again (es : List (String × MatchEntry)) (cache : MatcherCache) :
    (entries es cache).IsRepeatedBy (entries es (entries es cache).cache) := by
  cases h : (entries es cache).outcome with
  | ok _ =>
    obtain ⟨hcache, houtcome⟩ := entries_of_served (served_of_entries h)
    exact .of_ok hcache h houtcome
  | error fault =>
    obtain ⟨before, e, after, rfl, hbefore, he⟩ := exists_of_entries_eq_error h
    obtain ⟨hfirst, -⟩ := entries_of_stop hbefore he after
    have hserved : ∀ e ∈ before, e.2.IsServedBy ((entries before cache).cache.refusing fault) := by
      intro e he
      have hpassed := served_of_entries hbefore e he
      exact (MatcherCache.refusing_extends _ fault).isServedBy hpassed
    obtain ⟨hsame, hbefore'⟩ := entries_of_served hserved
    have he' := MatcherCache.hasFault_refusing he
    rw [← hsame] at he'
    obtain ⟨hsecond, hstops⟩ := entries_of_stop hbefore' he' after
    rw [← hfirst] at hsecond hstops hsame
    rw [hsame] at hsecond
    exact .of_error hsecond h hstops

lemma Walks.again {es : List (String × MatchEntry)} {inspect : MatcherCache → Inspection}
    (h : Walks es inspect) (cache : MatcherCache) :
    (inspect cache).IsRepeatedBy (inspect (inspect cache).cache) := by
  obtain ⟨hcache, houtcome⟩ := h cache
  obtain ⟨hcache', houtcome'⟩ := h (inspect cache).cache
  obtain ⟨hsame, hkept⟩ := entries_again es cache
  rw [← hcache] at hsame hkept
  refine ⟨?_, ?_⟩
  · rw [houtcome', hsame, houtcome]
  · rw [hcache', houtcome]
    exact hkept

/-- Rules of one kind are not inspected as rules of the other. -/
lemma payload_of_ne {kind : RuleKind} {p : Payload} (h : p.kind ≠ kind) (cache : MatcherCache) :
    payload kind p cache =
      ⟨cache, [], .error (.malformedDocument (.foreignPayload kind p.kind))⟩ := by
  match kind, p with
  | .routing, .routing r => exact absurd rfl h
  | .rateLimiting, .rateLimiting r => exact absurd rfl h
  | .routing, .rateLimiting r => rfl
  | .rateLimiting, .routing r => rfl

lemma payloadIn_again (order : EntryOrder) (kind : RuleKind) (p : Payload)
    (cache : MatcherCache) :
    (payloadIn order kind p cache).IsRepeatedBy
      (payloadIn order kind p (payloadIn order kind p cache).cache) := by
  by_cases hkind : p.kind = kind
  · have hsites : payloadIn order kind p = sites order p.sites := by
      funext cache
      rw [payloadIn, if_pos hkind]
    rw [hsites]
    exact (tellsReady_sites order p.sites).walks.again cache
  · have hforeign (cache : MatcherCache) : payloadIn order kind p cache =
        ⟨cache, [], .error (.malformedDocument (.foreignPayload kind p.kind))⟩ := by
      rw [payloadIn, if_neg hkind, payload_of_ne hkind]
    rw [hforeign, hforeign]
    exact .of_error rfl rfl rfl

end Inspection

/-! ### Validating twice -/

namespace RuleDocument

variable {d : RuleDocument} {kind : RuleKind}

/-- The rules that a validation completed are inspected again with the cache that it left. -/
lemma inspectIn_again (order : EntryOrder) (hkind : d.kind = some kind) :
    (d.inspectIn order kind).2.IsRepeatedBy
      ((d.validateIn order).document.inspectIn order kind).2 := by
  rw [validateIn_document hkind]
  rcases hcontent : d.content with e | _ | p
  · rw [inspectIn_of_error hcontent]
    exact ⟨rfl, .inl rfl⟩
  · rw [inspectIn_of_none hcontent]
    exact ⟨rfl, .inl rfl⟩
  · rw [inspectIn_of_some hcontent, inspectIn_of_some rfl, Payload.withDefaults_withDefaults]
    exact Inspection.payloadIn_again order kind (p.withDefaults kind) d.cache

/-- A second validation changes nothing but the cache. -/
lemma validateIn_again (order : EntryOrder) (hkind : d.kind = some kind) :
    let first := (d.validateIn order).document
    (first.validateIn order).document =
      { first with cache := (first.inspectIn order kind).2.cache } := by
  intro first
  have hfirst : first.kind = some kind := by
    simp only [first, validateIn_document hkind, hkind]
  have hcontent : first.content.map (Option.map (Payload.withDefaults kind)) = first.content := by
    simp only [first, validateIn_document hkind, inspectIn_content]
    rcases d.content with e | _ | p
    · rfl
    · rfl
    · exact congrArg (Except.ok ∘ some) (p.withDefaults_withDefaults kind)
  have hverdict : some (first.inspectIn order kind).2.outcome = first.verdict := by
    rw [(inspectIn_again order hkind).outcome]
    simp only [first, validateIn_document hkind]
  rw [validateIn_document hfirst, inspectIn_content, hcontent, hverdict]

/-- A second validation in a row comes to what the first one came to, and leaves the document as the
first one left it. If a pattern was refused, that it was compiled in vain once more is counted. -/
def ValidatesTwice (validate : RuleDocument → Validation) (d : RuleDocument) : Prop :=
  let first := validate d
  let second := validate first.document
  second.outcome = first.outcome ∧
    (second.document = first.document ∨
      (∃ p cause, first.outcome = .error (.invalidPattern p cause)) ∧
        second.document =
          { first.document with cache := first.document.cache.counting })

lemma validatesTwice_in (order : EntryOrder) (d : RuleDocument) :
    ValidatesTwice (validateIn order) d := by
  rw [ValidatesTwice]
  cases hkind : d.kind with
  | none =>
    rw [validateIn_of_none hkind, validateIn_of_none hkind]
    exact ⟨rfl, .inl rfl⟩
  | some kind =>
    have hfirst : (d.validateIn order).document.kind = some kind := by
      rw [validateIn_document hkind, hkind]
    obtain ⟨houtcome, hcache⟩ := inspectIn_again order hkind
    have hsecond := validateIn_again order hkind
    have hlater : (d.validateIn order).document.cache = (d.inspectIn order kind).2.cache := by
      rw [validateIn_document hkind]
    rw [validateIn_outcome hkind, validateIn_outcome hfirst]
    refine ⟨houtcome, ?_⟩
    dsimp only at hsecond
    rw [← hlater] at hcache
    rcases hcache with hsame | ⟨hrefused, hcounted⟩
    · rw [hsame] at hsecond
      exact .inl hsecond
    · rw [hcounted] at hsecond
      exact .inr ⟨hrefused, hsecond⟩

/-- Every document is left by a second validation in a row as the first one left it, in whatever
order the entries of its maps are visited both times. -/
theorem validate_again (d : RuleDocument) :
    ValidatesTwice validate d ∧ ∀ order, ValidatesTwice (validateIn order) d := by
  have hbyName : validateIn .byName = validate := funext validateIn_byName
  refine ⟨?_, fun order => validatesTwice_in order d⟩
  rw [← hbyName]
  exact validatesTwice_in .byName d

end RuleDocument

end RuleIntake
