import Mathlib.Tactic.Common
import RuleIntake.Proofs.DocumentBuilding
import RuleIntake.Proofs.InspectionWalk

/-!
# Publication

A document is published once all that happened to it could be told. What cannot be told are matchers
under previews that are too long to be laid out. So a document with patterns is lost where somebody
listens to events about matchers and previews are too long; any other document is published.
-/

namespace RuleIntake

namespace Config

/-- Previews may be longer by one character than can be laid out. -/
def longPreviews : Config :=
  { default with logPreviewLength := Event.maxPreviewLength + 1 }

/-- Whether all that happens to a document in the making can be told. -/
def CanTell (config : Config) (level : LogLevel) (d : RuleDocument) : Prop :=
  level = .warn ∨ config.logPreviewLength ≤ Event.maxPreviewLength ∨ d.cache.patterns = []

end Config

/-! ### Telling -/

namespace Event

variable {level : LogLevel} {events : List Event}

/-- The only events that cannot be told are about matchers, where previews are too long. -/
lemma isTellable_eq_false {e : Event} : e.isTellable = false ↔
    ∃ field pattern n, e = matcherReady field pattern n ∧ maxPreviewLength < n := by
  cases e <;> simp [isTellable]

lemma isTellable_of_isWarning {e : Event} (h : e.isWarning = true) : e.isTellable = true := by
  cases e <;> first | rfl | cases h

/-- Where all previews have one length, everything can be told if this is short enough, or if there
is no matcher to tell of. -/
lemma forall_isTellable_iff {n : Nat} (h : ∀ field p m, matcherReady field p m ∈ events → m = n) :
    (∀ e ∈ events, e.isTellable = true) ↔
      n ≤ maxPreviewLength ∨ ∀ field p m, matcherReady field p m ∉ events := by
  constructor
  · intro hall
    by_cases hready : ∃ field p m, matcherReady field p m ∈ events
    · obtain ⟨field, p, m, hmem⟩ := hready
      have hshort : m ≤ maxPreviewLength := of_decide_eq_true (hall _ hmem)
      exact .inl (h field p m hmem ▸ hshort)
    · push Not at hready
      exact .inr hready
  · intro hcan e he
    by_contra hnot
    rw [Bool.not_eq_true, isTellable_eq_false] at hnot
    obtain ⟨field, p, m, rfl, hlong⟩ := hnot
    rcases hcan with hshort | hnone
    · rw [h field p m he] at hlong
      exact Nat.not_le_of_lt hlong hshort
    · exact hnone field p m he

/-- All that is listened to can be told: it is warnings only, or there is nothing else. -/
lemma all_isTellable_filter_shows : (events.filter level.shows).all isTellable = true ↔
    level = .warn ∨ ∀ e ∈ events, e.isTellable = true := by
  simp only [List.all_eq_true, List.mem_filter]
  cases level with
  | debug => simp [LogLevel.shows]
  | warn => simpa [LogLevel.shows] using fun e _ => isTellable_of_isWarning

lemma tell_of_tellable (h : level = .warn ∨ ∀ e ∈ events, e.isTellable = true) :
    tell level events = .ok (events.filter level.shows) :=
  if_pos (all_isTellable_filter_shows.mpr h)

lemma tell_of_not_tellable (h : ¬(level = .warn ∨ ∀ e ∈ events, e.isTellable = true)) :
    tell level events = .error ((events.filter level.shows).takeWhile isTellable) :=
  if_neg (mt all_isTellable_filter_shows.mp h)

end Event

/-- Work has a result where something holds, and is broken off where it does not. -/
structure ComesTo {α : Type} (work : Except Failure (α × List Event)) (result : α)
    (P : Prop) : Prop where
  published : P → ∃ told, work = .ok (result, told)
  brokenOff : ¬P → ∃ told, work = .error (.brokenOff told)

/-- Work is broken off exactly if somebody listens to an event that cannot be told. -/
lemma comesTo_telling {α : Type} {work : Except RuleError (α × List Event)} {result : α}
    {events : List Event} {P : Prop} (hwork : work = .ok (result, events))
    (hP : (∀ e ∈ events, e.isTellable = true) ↔ P) (level : LogLevel) :
    ComesTo (telling level work) result (level = .warn ∨ P) := by
  rw [← hP]
  constructor
  · intro h
    simp only [telling, hwork, Event.tell_of_tellable h]
    exact ⟨_, rfl⟩
  · intro h
    simp only [telling, hwork, Event.tell_of_not_tellable h]
    exact ⟨_, rfl⟩

/-! ### Documents -/

/-- Starting with no matchers, all that is told can be told if previews are short enough, or if it
has made no matcher to tell of. -/
lemma Inspection.TellsMatchers.forall_isTellable {inspect : MatcherCache → Inspection}
    (h : TellsMatchers inspect) {cache : MatcherCache} (hempty : cache.patterns = []) :
    (∀ e ∈ (inspect cache).events, e.isTellable = true) ↔
      cache.previewLength ≤ Event.maxPreviewLength ∨ (inspect cache).cache.patterns = [] := by
  rw [Event.forall_isTellable_iff (h.told cache)]
  simp only [List.eq_nil_iff_forall_not_mem, h.patterns, hempty, List.not_mem_nil, false_or,
    not_exists]
  exact or_congr_right forall_comm

namespace RuleDocument

variable {d : RuleDocument} {kind : RuleKind} {raw : RawDocument}

lemma forall_isTellable_inspect (hempty : d.cache.patterns = []) :
    (∀ e ∈ (d.inspect kind).2.events, e.isTellable = true) ↔
      d.cache.previewLength ≤ Event.maxPreviewLength ∨
        (d.inspect kind).2.cache.patterns = [] := by
  rcases hcontent : d.content with e | _ | p
  · rw [inspect_of_error hcontent]
    exact iff_of_true (List.forall_mem_nil _) (.inr hempty)
  · rw [inspect_of_none hcontent]
    exact iff_of_true (List.forall_mem_nil _) (.inr hempty)
  · rw [inspect_of_some hcontent]
    exact (Inspection.tellsMatchers_payload kind _).forall_isTellable hempty

/-- A document that has no patterns yet is validated, and all of it can be told unless it has
patterns then that previews are too long for. -/
lemma forall_isTellable_validate (hkind : d.kind = some kind) (hempty : d.cache.patterns = []) :
    (∀ e ∈ d.validate.events, e.isTellable = true) ↔
      d.cache.previewLength ≤ Event.maxPreviewLength ∨
        d.validate.document.cache.patterns = [] := by
  obtain ⟨summary, hsummary, hevents⟩ := validate_events hkind
  have hlast : ∀ e ∈ [summary], e.isTellable = true := by simpa using hsummary
  rw [hevents, List.forall_mem_append, and_iff_left hlast, validate_document hkind]
  exact forall_isTellable_inspect hempty

/-- A document of a type that holds rules can always be built, and is the validated one. What
happens to it can be told as far as its previews allow. -/
lemma build_of_ruleKind? (hkind : raw.documentType.ruleKind? = some kind) (config : Config) :
    ∃ events, build (some raw) config =
        .ok ((ofRaw raw kind config).1.validate.document, events) ∧
      ((∀ e ∈ events, e.isTellable = true) ↔
        config.logPreviewLength ≤ Event.maxPreviewLength ∨
          (ofRaw raw kind config).1.validate.document.cache.patterns = []) := by
  obtain ⟨events, hbuild, htellable⟩ := build_isTellable_iff hkind config
  exact ⟨events, hbuild, htellable.trans (forall_isTellable_validate rfl rfl)⟩

theorem comesTo_publish (hkind : raw.documentType.ruleKind? = some kind) (config : Config)
    (level : LogLevel) :
    ComesTo (publish level (some raw) config) (ofRaw raw kind config).1.validate.document
      (config.CanTell level (ofRaw raw kind config).1.validate.document) := by
  obtain ⟨events, hbuild, htellable⟩ := build_of_ruleKind? hkind config
  exact comesTo_telling hbuild htellable level

end RuleDocument

end RuleIntake
