import Mathlib
import RuleIntake.Proofs.DocumentRuns
import RuleIntake.Proofs.RepeatedValidation

/-!
# What a validation tells

A validation tells of each matcher that it made sure of, in the order in which entries are visited,
and then what it came to. If it stops, the warning of the site where it stopped comes first, and
what is behind that site is not told of. All of this can be told as long as previews are short
enough to be laid out; work ends at the first event that cannot be told.
-/

namespace RuleIntake

open MatchEntry Inspection

/-! ### Events -/

namespace Event

/-- Of a pattern no more characters are shown than a preview may have. -/
lemma line_matcherReady (field pattern : String) (n : Nat) :
    ∃ shown, (matcherReady field pattern n).line =
        "DEBUG " ++ ("Regex matcher ready | Field: " ++ field ++ " | Pattern: " ++ shown) ∧
      shown.toList <+: pattern.toList ∧ shown.length = min n pattern.length := by
  refine ⟨.ofList (pattern.toList.take n), rfl, ?_, ?_⟩
  · rw [String.toList_ofList]
    exact List.take_prefix n pattern.toList
  · rw [String.length_ofList, List.length_take, String.length_toList]

lemma isWarning_warning (place : Place) (fault : RuleError) :
    (place.warning fault).isWarning = true := by
  cases place <;> rfl

/-- Of some events a listener is told all that is shown, or nothing at all. -/
structure IsTold (level : LogLevel) (events : List Event) (P : Prop) : Prop where
  told : P → tell level events = .ok (events.filter level.shows)
  lost : ¬P → tell level events = .error []

end Event

namespace Inspection

lemma isWarning_of_mem_ready {n : Nat} {es : List (String × MatchEntry)} {event : Event}
    (h : event ∈ ready n es) : event.isWarning = false := by
  obtain ⟨e, -, rfl⟩ := List.mem_map.mp h
  rfl

lemma filter_isWarning_ready (n : Nat) (es : List (String × MatchEntry)) :
    (ready n es).filter (·.isWarning) = [] := by
  rw [List.filter_eq_nil_iff]
  intro event hevent
  rw [isWarning_of_mem_ready hevent]
  exact Bool.false_ne_true

end Inspection

/-! ### Validations -/

namespace RuleDocument

variable {d : RuleDocument} {kind : RuleKind} {p : Payload} {order : EntryOrder}

lemma inspectIn_eq_sites (order : EntryOrder) (hp : d.payload = some p) :
    (d.inspectIn order p.kind).2 = sites order (p.withDefaults p.kind).sites d.cache := by
  have hcontent : d.content = .ok (some p) := by
    rw [payload] at hp
    split at hp
    · next hcontent => rw [hcontent, hp]
    · cases hp
  rw [inspectIn_of_some hcontent, payloadIn, if_pos (p.kind_withDefaults p.kind)]

/-- What a validation tells of rules and what it comes to. All entries are sound for the cache with
which it starts, or it stops at the first one that is not. -/
inductive Tells (order : EntryOrder) (d : RuleDocument) (p : Payload) (v : Validation) : Prop
  | valid (sound : ∀ e ∈ visited order p.sites, e.2.IsSoundFor d.cache)
      (outcome : v.outcome = .ok ())
      (events : v.events = ready d.cache.previewLength (visited order p.sites) ++
        [.validated d.service d.revision v.document.cache.size])
  | invalid (stop : Stop order p.sites) (fault : RuleError)
      (sound : ∀ e ∈ stop.earlier, e.2.IsSoundFor d.cache)
      (faulty : HasFault d.cache stop.entry fault)
      (outcome : v.outcome = .error fault)
      (events : v.events = ready d.cache.previewLength stop.earlier ++
        [stop.site.place.warning fault, .invalid d.service d.revision fault])

lemma tells_validateIn (hkind : d.kind = some p.kind) (hp : d.payload = some p)
    (order : EntryOrder) : Tells order d (p.withDefaults p.kind) (d.validateIn order) := by
  have hinspect := inspectIn_eq_sites order hp
  have htells := tellsReady_sites order (p.withDefaults p.kind).sites
  cases h : (sites order (p.withDefaults p.kind).sites d.cache).outcome with
  | ok _ =>
    rw [← hinspect] at h
    refine .valid ?_ ((validateIn_outcome hkind).trans h) ?_
    · rw [hinspect, (htells.walks d.cache).2] at h
      exact (entries_outcome _ d.cache).mp h
    · rw [validateIn_events_of_ok hkind h, validateIn_document hkind, hinspect]
      rw [hinspect] at h
      rw [htells.told d.cache h]
  | error fault =>
    obtain ⟨stop, hsound, hfault, hevents⟩ := exists_stop_of_sites h
    rw [← hinspect] at h hevents
    refine .invalid stop fault hsound hfault ((validateIn_outcome hkind).trans h) ?_
    rw [validateIn_events_of_error hkind h, hevents, List.append_assoc]
    rfl

namespace Tells

variable {v : Validation}

/-- Matchers come first in what is told. -/
lemma exists_ready (h : Tells order d p v) : ∃ es rest,
    v.events = ready d.cache.previewLength es ++ rest ∧
      ∀ field pattern n, .matcherReady field pattern n ∉ rest := by
  cases h with
  | valid sound outcome events => exact ⟨_, _, events, by simp⟩
  | invalid stop fault sound faulty outcome events =>
    refine ⟨_, _, events, ?_⟩
    cases stop.site.place <;> simp [Place.warning]

/-- What is told of matchers has previews of the length that the cache sets. -/
lemma previewLength (h : Tells order d p v) {field pattern : String} {n : Nat}
    (he : .matcherReady field pattern n ∈ v.events) : n = d.cache.previewLength := by
  obtain ⟨es, rest, hevents, hrest⟩ := h.exists_ready
  rw [hevents, List.mem_append, or_iff_left (hrest field pattern n)] at he
  obtain ⟨e, -, heq⟩ := List.mem_map.mp he
  cases heq
  rfl

/-- A validation that tells of a matcher does so first, so that nothing is told if it cannot be. -/
lemma isTold (h : Tells order d p v) (level : LogLevel) :
    Event.IsTold level v.events (level = .warn ∨
      d.cache.previewLength ≤ Event.maxPreviewLength ∨
        ∀ field pattern n, .matcherReady field pattern n ∉ v.events) := by
  have hiff := Event.forall_isTellable_iff fun _ _ _ => h.previewLength
  rw [← hiff]
  refine ⟨Event.tell_of_tellable, fun hcannot => ?_⟩
  rw [Event.tell_of_not_tellable hcannot]
  rw [hiff, not_or, not_or, Nat.not_le] at hcannot
  obtain ⟨hwarn, hlong, hready⟩ := hcannot
  push Not at hready
  obtain ⟨field, pattern, n, hmem⟩ := hready
  obtain ⟨es, rest, hevents, hrest⟩ := h.exists_ready
  rw [hevents, List.mem_append, or_iff_left (hrest field pattern n)] at hmem
  obtain ⟨first, more, hfirst⟩ := List.exists_cons_of_ne_nil (List.ne_nil_of_mem hmem)
  have hnot : first.isTellable = false := by
    obtain ⟨e, -, rfl⟩ := List.mem_map.mp (hfirst ▸ List.mem_cons_self : first ∈ ready _ es)
    exact Event.isTellable_eq_false.mpr ⟨_, _, _, rfl, hlong⟩
  obtain rfl : level = .debug := by
    cases level with
    | debug => rfl
    | warn => exact absurd rfl hwarn
  rw [hevents, hfirst, List.cons_append, List.filter_cons_of_pos rfl,
    List.takeWhile_cons_of_neg (by simp [hnot])]

lemma isWarning_of_ok (h : Tells order d p v) (hok : v.outcome = .ok ()) :
    ∀ e ∈ v.events, e.isWarning = false := by
  cases h with
  | valid sound outcome events =>
    rw [events, List.forall_mem_append]
    exact ⟨fun e he => isWarning_of_mem_ready he, by simp [Event.isWarning]⟩
  | invalid stop fault sound faulty outcome events =>
    rw [hok] at outcome
    cases outcome

lemma warnings_of_error (h : Tells order d p v) {fault : RuleError}
    (hfault : v.outcome = .error fault) : ∃ place : Place, v.events.filter (·.isWarning) =
      [place.warning fault, .invalid d.service d.revision fault] := by
  cases h with
  | valid sound outcome events =>
    rw [hfault] at outcome
    cases outcome
  | invalid stop fault' sound faulty outcome events =>
    obtain rfl : fault = fault' := Except.error.inj (hfault.symm.trans outcome)
    refine ⟨stop.site.place, ?_⟩
    rw [events, List.filter_append, filter_isWarning_ready, List.nil_append,
      List.filter_cons_of_pos (Event.isWarning_warning _ _)]
    rfl

end Tells

end RuleDocument

/-! ### Runs -/

namespace RuleDocument

/-- A validation adds nothing to a cache but what the cache compiles itself. -/
lemma validate_grows (d : RuleDocument) : d.validate.document.cache.Grows d.cache := by
  cases hkind : d.kind with
  | none =>
    rw [validate_of_none hkind]
    exact .refl d.cache
  | some kind =>
    rw [validate_document hkind]
    rcases hcontent : d.content with e | _ | p
    · rw [inspect_of_error hcontent]
      exact .refl d.cache
    · rw [inspect_of_none hcontent]
      exact .refl d.cache
    · rw [inspect_of_some hcontent]
      by_cases hp : p.kind = kind
      · have hwalk := (inspect_walk hp d.cache).1
        dsimp only
        rw [hwalk]
        exact entries_grows _ d.cache
      · have hforeign : (p.withDefaults kind).kind ≠ kind := by rwa [p.kind_withDefaults]
        dsimp only
        rw [payload_of_ne hforeign]
        exact .refl d.cache

end RuleDocument

open RuleDocument

namespace DocumentCall

lemma previewLength_cacheCall (call : CacheCall) (cache : MatcherCache) :
    (call.perform cache).previewLength = cache.previewLength := by
  cases call with
  | get p => rfl
  | contains p => rfl
  | put p m =>
    rw [CacheCall.perform]
    rcases cache.put_cases p m with ⟨kept, -, h⟩ | ⟨-, h⟩ <;> rw [h]
    rfl
  | getOrCompile p => exact (cache.getOrCompile_grows p).previewLength
  | inspect es => exact (entries_grows es cache).previewLength

/-- No call changes how long previews may be. -/
lemma previewLength_run (calls : List DocumentCall) (d : RuleDocument) :
    (run calls d).cache.previewLength = d.cache.previewLength := by
  refine run_keeps (P := fun later => later.cache.previewLength = d.cache.previewLength) ?_ calls
    rfl
  intro call later h
  rw [← h]
  cases call with
  | validate => exact later.validate_grows.previewLength
  | markFromSnapshot => rfl
  | cache call => exact previewLength_cacheCall call later.cache

/-- Whatever was called, the rules of a document are of its kind, and previews are as long as the
configuration says. -/
lemma run_of_payload {raw : Option RawDocument} {config : Config} {made : RuleDocument}
    {told : List Event} (hmade : construct raw config = .ok (made, told))
    (calls : List DocumentCall) {p : Payload} (hp : (run calls made).payload = some p) :
    (run calls made).kind = some p.kind ∧
      (run calls made).cache.previewLength = config.logPreviewLength := by
  rw [previewLength_run]
  rcases construct_cases hmade with ⟨-, rfl⟩ | ⟨document, kind, -, -, rfl⟩
  · have hkind := (run_coherent calls IsCoherent.uninitialized).kind p hp
    rw [(run_identity calls _).2.1] at hkind
    cases hkind
  · exact ⟨(run_coherent calls (IsCoherent.ofRaw document kind config)).kind p hp, rfl⟩

/-- Whatever was called before, a validation of rules tells of the matchers of the entries that come
through, in the order in which they are visited, and then that the rules are valid; or, where it
stops, it warns of the site and of the document with one and the same error. Patterns are shown as
far as a preview goes. What is told of matchers cannot be told if previews are too long to be laid
out, and then nothing else is told either. -/
theorem run_tells (raw : Option RawDocument) (config : Config) {made : RuleDocument}
    {told : List Event} (hmade : construct raw config = .ok (made, told))
    (calls : List DocumentCall) {p : Payload} (hp : (run calls made).payload = some p)
    (order : EntryOrder) :
    let d := run calls made
    let v := d.validateIn order
    d.validateIn .byName = d.validate ∧ d.cache.previewLength = config.logPreviewLength ∧
      Tells order d (p.withDefaults p.kind) v ∧
      (v.outcome = .ok () → ∀ e ∈ v.events, e.isWarning = false) ∧
      (∀ fault, v.outcome = .error fault → ∃ place : Place, v.events.filter (·.isWarning) =
        [place.warning fault, .invalid d.service d.revision fault]) ∧
      (∀ field pattern, ∃ shown,
        (Event.matcherReady field pattern config.logPreviewLength).line =
            "DEBUG " ++ ("Regex matcher ready | Field: " ++ field ++ " | Pattern: " ++ shown) ∧
          shown.toList <+: pattern.toList ∧
          shown.length = min config.logPreviewLength pattern.length) ∧
      (∀ e ∈ v.events, e.isTellable = false ↔
        (∃ field pattern, e = .matcherReady field pattern config.logPreviewLength) ∧
          Event.maxPreviewLength < config.logPreviewLength) ∧
      ∀ level, Event.IsTold level v.events (level = .warn ∨
        config.logPreviewLength ≤ Event.maxPreviewLength ∨
          ∀ field pattern n, .matcherReady field pattern n ∉ v.events) := by
  intro d v
  obtain ⟨hkind, hlength⟩ := run_of_payload hmade calls hp
  have htells : Tells order d (p.withDefaults p.kind) v := tells_validateIn hkind hp order
  refine ⟨d.validateIn_byName, hlength, htells, htells.isWarning_of_ok,
    fun _ hfault => htells.warnings_of_error hfault,
    fun field pattern => Event.line_matcherReady field pattern _, ?_,
    fun level => hlength ▸ htells.isTold level⟩
  intro e he
  rw [Event.isTellable_eq_false]
  constructor
  · rintro ⟨field, pattern, n, rfl, hlong⟩
    obtain rfl : n = config.logPreviewLength := (htells.previewLength he).trans hlength
    exact ⟨⟨field, pattern, rfl⟩, hlong⟩
  · rintro ⟨⟨field, pattern, rfl⟩, hlong⟩
    exact ⟨field, pattern, _, rfl, hlong⟩

/-- The limit that is delivered last is inspected first. A pattern that is cached already is told of
again. A label that does not compile is warned of, and then its document, behind the matchers of the
limit before. -/
theorem run_tells_limitsDocument :
    (∃ made told, construct (some (limitsDocument "ab")) .default = .ok (made, told) ∧
      let v := (run [validate] made).validate
      Event.tell .debug v.events =
        .ok [.matcherReady "host" "cd" 120, .matcherReady "path" "ab" 120,
          .matcherReady "path" "ab" 120, .validated ⟨"Production", "order"⟩ "7" 2]) ∧
    ∃ made told, construct (some (limitsDocument "(")) .default = .ok (made, told) ∧
      let v := (run [validate] made).validate
      ∃ fault, ∃ place : Place, v.outcome = .error fault ∧
        v.events.take 2 = [.matcherReady "host" "cd" 120, .matcherReady "path" "ab" 120] ∧
        v.events.filter (·.isWarning) =
          [place.warning fault, .invalid ⟨"Production", "order"⟩ "7" fault] := by
  constructor
  · let made := (ofRaw (limitsDocument "ab") .rateLimiting .default).1
    have hmade : construct (some (limitsDocument "ab")) .default =
        .ok (made, (ofRaw (limitsDocument "ab") .rateLimiting .default).2) := rfl
    have hrules : (run [validate] made).payload.isSome = true := by cbv
    obtain ⟨p, hp⟩ := Option.isSome_iff_exists.mp hrules
    have hevents : (run [validate] made).validate.events =
        [.matcherReady "host" "cd" 120, .matcherReady "path" "ab" 120,
          .matcherReady "path" "ab" 120, .validated ⟨"Production", "order"⟩ "7" 2] := by cbv
    obtain ⟨hbyName, -, -, -, -, -, -, htold⟩ := run_tells _ _ hmade [validate] hp .byName
    have hshort : Config.default.logPreviewLength ≤ Event.maxPreviewLength := by decide
    have htell := (htold .debug).told (.inr (.inl hshort))
    rw [hbyName, hevents] at htell
    refine ⟨made, _, hmade, ?_⟩
    dsimp only
    rw [hevents]
    exact htell
  · let made := (ofRaw (limitsDocument "(") .rateLimiting .default).1
    have hmade : construct (some (limitsDocument "(")) .default =
        .ok (made, (ofRaw (limitsDocument "(") .rateLimiting .default).2) := rfl
    have hrules : (run [validate] made).payload.isSome = true := by cbv
    obtain ⟨p, hp⟩ := Option.isSome_iff_exists.mp hrules
    have hrefused : (run [validate] made).validate.outcome.isOk = false := by cbv
    have hready : (run [validate] made).validate.events.take 2 =
        [.matcherReady "host" "cd" 120, .matcherReady "path" "ab" 120] := by cbv
    obtain ⟨hbyName, -, -, -, hwarnings, -⟩ := run_tells _ _ hmade [validate] hp .byName
    rw [hbyName] at hwarnings
    cases houtcome : (run [validate] made).validate.outcome with
    | ok _ =>
      rw [houtcome] at hrefused
      cases hrefused
    | error fault =>
      obtain ⟨place, hplace⟩ := hwarnings fault houtcome
      exact ⟨made, _, hmade, fault, place, houtcome, hready, hplace⟩

/-- Of a document with such previews not even that it is valid is told. -/
theorem validate_longPreviews :
    ∃ made told, construct (some (labelDocument "ab")) Config.longPreviews = .ok (made, told) ∧
      made.payload = some (labelRules "ab") ∧ made.validate.outcome = .ok () ∧
      Event.tell .debug made.validate.events = .error [] := by
  let made := (ofRaw (labelDocument "ab") .rateLimiting Config.longPreviews).1
  exact ⟨made, _, rfl, rfl, by cbv, by cbv⟩

end DocumentCall

end RuleIntake
