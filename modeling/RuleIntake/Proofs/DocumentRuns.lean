import Mathlib
import RuleIntake.Proofs.CacheRuns
import RuleIntake.Proofs.DocumentSteps

/-!
# Runs of a document

A document is validated, marked and asked for matchers in any order. What it says about itself stays
and fits its rules, its state is that of the last validation, and rules that could not be read stay
unreadable. Marking it is new only once.
-/

namespace RuleIntake

/-- What can be asked of a document once it is made. -/
inductive DocumentCall
  | validate
  | markFromSnapshot
  /-- A call of its cache. -/
  | cache (call : CacheCall)

namespace DocumentCall

def perform : DocumentCall → RuleDocument → RuleDocument
  | validate, d => d.validate.document
  | markFromSnapshot, d => d.markFromSnapshot.2
  | cache call, d => { d with cache := call.perform d.cache }

def run (calls : List DocumentCall) (d : RuleDocument) : RuleDocument :=
  calls.foldl (fun d call => call.perform d) d

/-- What the validations among calls come to. -/
def outcomes : List DocumentCall → RuleDocument → List (Except RuleError Unit)
  | [], _ => []
  | validate :: rest, d => d.validate.outcome :: outcomes rest d.validate.document
  | call :: rest, d => outcomes rest (call.perform d)

/-- What the marks among calls answer. -/
def marks : List DocumentCall → RuleDocument → List Bool
  | [], _ => []
  | markFromSnapshot :: rest, d => d.markFromSnapshot.1 :: marks rest d.markFromSnapshot.2
  | call :: rest, d => marks rest (call.perform d)

/-! ### Going through a run -/

lemma run_cons (call : DocumentCall) (rest : List DocumentCall) (d : RuleDocument) :
    run (call :: rest) d = run rest (call.perform d) := rfl

section Invariants

variable {P : RuleDocument → Prop} (hstep : ∀ call d, P d → P (perform call d))

include hstep

/-- What every call keeps is kept by a run. -/
lemma run_keeps (calls : List DocumentCall) {d : RuleDocument} (h : P d) : P (run calls d) := by
  induction calls generalizing d with
  | nil => exact h
  | cons call rest ih => exact ih (hstep call d h)

/-- What every call keeps is there at each validation of a run. -/
lemma forall_mem_outcomes {Q : Except RuleError Unit → Prop}
    (houtcome : ∀ d, P d → Q d.validate.outcome) (calls : List DocumentCall) {d : RuleDocument}
    (h : P d) : ∀ outcome ∈ outcomes calls d, Q outcome := by
  induction calls generalizing d with
  | nil => simp [outcomes]
  | cons call rest ih =>
    have hrest := ih (hstep call d h)
    cases call with
    | validate =>
      rw [outcomes, List.forall_mem_cons]
      exact ⟨houtcome d h, hrest⟩
    | markFromSnapshot => exact hrest
    | cache call => exact hrest

end Invariants

variable {d : RuleDocument} {kind : RuleKind}

/-! ### What a run keeps -/

lemma perform_identity (call : DocumentCall) (d : RuleDocument) :
    (call.perform d).service = d.service ∧ (call.perform d).kind = d.kind ∧
      (call.perform d).revision = d.revision := by
  cases call with
  | validate => exact d.validate_identity
  | markFromSnapshot => exact ⟨rfl, rfl, rfl⟩
  | cache call => exact ⟨rfl, rfl, rfl⟩

lemma run_identity (calls : List DocumentCall) (d : RuleDocument) :
    (run calls d).service = d.service ∧ (run calls d).kind = d.kind ∧
      (run calls d).revision = d.revision := by
  refine run_keeps (P := fun later =>
    later.service = d.service ∧ later.kind = d.kind ∧ later.revision = d.revision) ?_ calls
    ⟨rfl, rfl, rfl⟩
  rintro call later ⟨hservice, hkind, hrevision⟩
  obtain ⟨hservice', hkind', hrevision'⟩ := perform_identity call later
  exact ⟨hservice'.trans hservice, hkind'.trans hkind, hrevision'.trans hrevision⟩

lemma perform_coherent (h : d.IsCoherent) (call : DocumentCall) :
    (call.perform d).IsCoherent := by
  cases call with
  | validate => exact h.validate
  | markFromSnapshot => exact ⟨h.verdict, h.kind, h.revision, h.unreadable⟩
  | cache call => exact ⟨h.verdict, h.kind, h.revision, h.unreadable⟩

lemma run_coherent (calls : List DocumentCall) (h : d.IsCoherent) : (run calls d).IsCoherent :=
  run_keeps (P := RuleDocument.IsCoherent) (fun call _ h => perform_coherent h call) calls h

/-! ### Outcomes and marks -/

/-- The verdict on rules is the outcome of the last validation. -/
lemma verdict_run (hkind : d.kind = some kind) (calls : List DocumentCall) :
    (run calls d).verdict = (outcomes calls d).getLast?.or d.verdict := by
  induction calls generalizing d with
  | nil => rfl
  | cons call rest ih =>
    have hlater : (call.perform d).kind = some kind := by
      rw [(perform_identity call d).2.1, hkind]
    rw [run_cons, ih hlater]
    cases call with
    | validate =>
      have hverdict : d.validate.document.verdict = some d.validate.outcome := by
        rw [RuleDocument.validate_document hkind, RuleDocument.validate_outcome hkind]
      rw [outcomes, List.getLast?_cons, perform, hverdict]
      cases (outcomes rest d.validate.document).getLast? <;> rfl
    | markFromSnapshot => rfl
    | cache call => rfl

lemma outcomes_eq_nil {calls : List DocumentCall} {d : RuleDocument} :
    outcomes calls d = [] ↔ validate ∉ calls := by
  induction calls generalizing d with
  | nil => simp [outcomes]
  | cons call rest ih => cases call <;> simp [outcomes, ih]

lemma fromSnapshot_run {calls : List DocumentCall} {d : RuleDocument} :
    (run calls d).fromSnapshot = true ↔ d.fromSnapshot = true ∨ markFromSnapshot ∈ calls := by
  induction calls generalizing d with
  | nil => simp [run]
  | cons call rest ih =>
    rw [run_cons, ih]
    cases call with
    | validate => simp [perform, RuleDocument.validate_fromSnapshot]
    | markFromSnapshot => simp [perform, RuleDocument.markFromSnapshot]
    | cache call => simp [perform]

/-- No mark is new once the document is marked. -/
lemma marks_of_marked (calls : List DocumentCall) (h : d.fromSnapshot = true) :
    ∀ new ∈ marks calls d, new = false := by
  induction calls generalizing d with
  | nil => simp [marks]
  | cons call rest ih =>
    have hlater : (run [call] d).fromSnapshot = true := fromSnapshot_run.mpr (.inl h)
    have hrest := ih hlater
    cases call with
    | validate => exact hrest
    | markFromSnapshot =>
      rw [marks, List.forall_mem_cons]
      exact ⟨by rw [RuleDocument.markFromSnapshot, h, Bool.not_true], hrest⟩
    | cache call => exact hrest

lemma marks_of_new (calls : List DocumentCall) (h : d.fromSnapshot = false) {new : Bool}
    {rest : List Bool} (hmarks : marks calls d = new :: rest) :
    new = true ∧ ∀ again ∈ rest, again = false := by
  induction calls generalizing d with
  | nil => cases hmarks
  | cons call calls ih =>
    cases call with
    | validate => exact ih ((RuleDocument.validate_fromSnapshot d).trans h) hmarks
    | markFromSnapshot =>
      obtain ⟨rfl, rfl⟩ := List.cons.inj hmarks
      exact ⟨by rw [RuleDocument.markFromSnapshot, h, Bool.not_false], marks_of_marked calls rfl⟩
    | cache call =>
      have hlater : (perform (cache call) d).fromSnapshot = false := h
      exact ih hlater hmarks

/-! ### The life of a document -/

lemma state_run (hkind : d.kind = some kind) (hnew : d.verdict = none)
    (calls : List DocumentCall) :
    ((run calls d).state = .constructed ↔ validate ∉ calls) ∧
      ((run calls d).state = .invalid ↔ ∃ e, (outcomes calls d).getLast? = some (.error e)) ∧
      ((run calls d).state = .valid ↔ (outcomes calls d).getLast? = some (.ok ())) := by
  have hverdict := verdict_run hkind calls
  have hlater : (run calls d).kind = some kind := by rw [(run_identity calls d).2.1, hkind]
  rw [hnew, Option.or_none] at hverdict
  rw [← outcomes_eq_nil (d := d), ← List.getLast?_eq_none_iff, RuleDocument.state, hlater,
    hverdict]
  rcases (outcomes calls d).getLast? with _ | e | ⟨⟩ <;> simp

lemma validationError_run (h : d.IsCoherent) (hnew : d.verdict = none)
    (calls : List DocumentCall) (e : RuleError) :
    (run calls d).validationError = some e ↔ (outcomes calls d).getLast? = some (.error e) := by
  rw [RuleDocument.validationError]
  cases hkind : d.kind with
  | none =>
    have hlater : (run calls d).kind = none := by rw [(run_identity calls d).2.1, hkind]
    have hok : ∀ outcome ∈ outcomes calls d, outcome = .ok () := by
      refine forall_mem_outcomes (P := fun later => later.kind = none) ?_ ?_ calls hkind
      · intro call later h
        rw [(perform_identity call later).2.1, h]
      · intro later h
        rw [RuleDocument.validate_of_none h]
    rw [(run_coherent calls h).verdict hlater]
    refine iff_of_false (by rintro ⟨⟩) ?_
    intro hlast
    cases hok _ (List.mem_of_getLast? hlast)
  | some kind =>
    rw [verdict_run hkind, hnew, Option.or_none]
    rcases (outcomes calls d).getLast? with _ | e | ⟨⟩ <;> simp

/-- Rules that could not be read stay unreadable. -/
lemma run_of_error (hkind : d.kind = some kind) {e : RuleError} (h : d.content = .error e)
    (calls : List DocumentCall) :
    (run calls d).payload = none ∧ (∀ outcome ∈ outcomes calls d, outcome = .error e) ∧
      (run calls d).validate.document.cache = (run calls d).cache := by
  have hstep (call : DocumentCall) (later : RuleDocument)
      (hlater : later.kind = some kind ∧ later.content = .error e) :
      (call.perform later).kind = some kind ∧ (call.perform later).content = .error e := by
    obtain ⟨hsame, hcontent⟩ := hlater
    refine ⟨(perform_identity call later).2.1.trans hsame, ?_⟩
    cases call with
    | validate => exact (RuleDocument.validate_of_error hsame hcontent).2.1
    | markFromSnapshot => exact hcontent
    | cache call => exact hcontent
  obtain ⟨hsame, hcontent⟩ := run_keeps hstep calls ⟨hkind, h⟩
  refine ⟨RuleDocument.payload_of_error hcontent, ?_,
    (RuleDocument.validate_of_error hsame hcontent).2.2⟩
  exact forall_mem_outcomes hstep
    (fun _ hlater => (RuleDocument.validate_of_error hlater.1 hlater.2).1) calls ⟨hkind, h⟩

/-- The life of a document, whatever is called in whatever order. -/
theorem run_lifecycle (raw : Option RawDocument) (config : Config) {made : RuleDocument}
    {told : List Event} (hmade : RuleDocument.construct raw config = .ok (made, told))
    (calls : List DocumentCall) :
    let d := run calls made
    -- what it says about itself stays, and fits its rules
    (d.isInitialized = made.isInitialized ∧ d.service = made.service ∧ d.kind = made.kind ∧
      d.revision = made.revision) ∧
    (∀ p, d.payload = some p → d.kind = some p.kind) ∧
    d.revision = Payload.revisionOf d.payload ∧
    (∀ outcome ∈ outcomes calls made, ∀ expected found,
      outcome ≠ .error (.malformedDocument (.foreignPayload expected found))) ∧
    -- its state and its error are those of the last validation
    (d.state = .uninitialized ↔ raw = none) ∧
    (raw ≠ none →
      (d.state = .constructed ↔ validate ∉ calls) ∧
      (d.state = .invalid ↔ ∃ e, (outcomes calls made).getLast? = some (.error e)) ∧
      (d.state = .valid ↔ (outcomes calls made).getLast? = some (.ok ()))) ∧
    (∀ e, d.validationError = some e ↔ (outcomes calls made).getLast? = some (.error e)) ∧
    -- rules that could not be read are refused for that each time
    (∀ document kind e, raw = some document → document.documentType.ruleKind? = some kind →
      document.extract kind = .error e →
        (∃ fault, e = .malformedDocument fault) ∧ d.payload = none ∧ d.revision = "" ∧
        (∀ outcome ∈ outcomes calls made, outcome = .error e) ∧
        d.validate.document.cache = d.cache) ∧
    -- the first mark is new and no other one
    (∀ new rest, marks calls made = new :: rest → new = true ∧ ∀ again ∈ rest, again = false) ∧
    (d.fromSnapshot = true ↔ markFromSnapshot ∈ calls) := by
  intro d
  obtain ⟨hservice, hkind, hrevision⟩ := run_identity calls made
  have hinitialized : d.isInitialized = made.isInitialized := congrArg Option.isSome hkind
  obtain ⟨hcoherent, hunmarked, hnew⟩ :
      made.IsCoherent ∧ made.fromSnapshot = false ∧ made.verdict = none := by
    rcases RuleDocument.construct_cases hmade with ⟨-, rfl⟩ | ⟨document, kind, -, -, rfl⟩
    · exact ⟨.uninitialized, rfl, rfl⟩
    · exact ⟨.ofRaw document kind config, rfl, rfl⟩
  have hd : d.IsCoherent := run_coherent calls hcoherent
  refine ⟨⟨hinitialized, hservice, hkind, hrevision⟩, hd.kind, hd.revision, ?_, ?_, ?_,
    validationError_run hcoherent hnew calls, ?_, fun _ _ => marks_of_new calls hunmarked, ?_⟩
  · refine forall_mem_outcomes (P := RuleDocument.IsCoherent)
      (fun call _ h => perform_coherent h call) ?_ calls hcoherent
    intro later hlater
    exact hlater.outcome_ne_foreignPayload
  · rw [RuleDocument.state_eq_uninitialized, hkind]
    rcases RuleDocument.construct_cases hmade with ⟨rfl, rfl⟩ | ⟨document, kind, rfl, -, rfl⟩
    · exact iff_of_true rfl rfl
    · exact iff_of_false (by rintro ⟨⟩) (by rintro ⟨⟩)
  · intro hraw
    rcases RuleDocument.construct_cases hmade with ⟨rfl, -⟩ | ⟨document, kind, -, -, rfl⟩
    · exact absurd rfl hraw
    · exact state_run rfl hnew calls
  · rintro document kind e rfl hdocument he
    obtain ⟨m, hfault⟩ := RawDocument.extract_error he
    rcases RuleDocument.construct_cases hmade with ⟨⟨⟩, -⟩ | ⟨_, kind', ⟨⟩, hkind', rfl⟩
    rw [hdocument] at hkind'
    obtain rfl := Option.some.inj hkind'
    have hcontent : (RuleDocument.ofRaw document kind config).1.content = .error e := he
    obtain ⟨hpayload, houtcomes, hcache⟩ := run_of_error rfl hcontent calls
    refine ⟨⟨.value m, hfault⟩, hpayload, ?_, houtcomes, hcache⟩
    rw [hd.revision, hpayload]
    rfl
  · rw [fromSnapshot_run, hunmarked]
    simp

/-- A matcher is put for a pattern that does not compile, between two validations and two marks. -/
def repairing : List DocumentCall :=
  [validate, markFromSnapshot, cache (.put "(" ⟨0, ⟨"(", .empty⟩⟩), validate, markFromSnapshot]

/-- The document is invalid until then and valid afterwards, without an error; only the first mark
is new. -/
theorem run_repairing :
    ∃ made told,
      RuleDocument.construct (some (RuleDocument.labelDocument "(")) .default = .ok (made, told) ∧
        (run [validate] made).state = .invalid ∧ (run repairing made).state = .valid ∧
        (run repairing made).validationError = none ∧ marks repairing made = [true, false] := by
  let document := RuleDocument.labelDocument "("
  let made := (RuleDocument.ofRaw document .rateLimiting .default).1
  have hmade : RuleDocument.construct (some document) .default =
      .ok (made, (RuleDocument.ofRaw document .rateLimiting .default).2) := rfl
  have hfirst : (outcomes [validate] made).map Except.isOk = [false] := by cbv
  have hlast : (outcomes repairing made).getLast? = some (.ok ()) := by cbv
  have hmarks : marks repairing made = [true, false] := by cbv
  obtain ⟨-, -, -, -, -, hbefore, -⟩ := run_lifecycle _ _ hmade [validate]
  obtain ⟨-, -, -, -, -, hafter, herror, -⟩ := run_lifecycle _ _ hmade repairing
  refine ⟨made, _, hmade, ?_, ?_, ?_, hmarks⟩
  · have hrefused : ∃ e, (outcomes [validate] made).getLast? = some (.error e) := by
      rw [outcomes, outcomes] at hfirst ⊢
      cases houtcome : made.validate.outcome with
      | error e => exact ⟨e, rfl⟩
      | ok _ =>
        rw [houtcome] at hfirst
        cases hfirst
    exact (hbefore (by simp)).2.1.mpr hrefused
  · exact (hafter (by simp)).2.2.mpr hlast
  · rw [Option.eq_none_iff_forall_ne_some]
    intro e he
    rw [herror, hlast] at he
    cases he

end DocumentCall

end RuleIntake
