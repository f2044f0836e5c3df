import Mathlib
import RuleIntake.Proofs.DocumentBuilding
import RuleIntake.Proofs.JsonShape
import RuleIntake.Proofs.JsonSpelling

/-!
# The schema of rules

The wire form of routing and rate limit rules, told type by type: the names of the fields and of the
values of enumerations, what each field holds, and what it is where it is left out. Rules are read
from a value exactly if the value spells them in this form. Any other value makes a document
malformed, and it has no rules then.
-/

namespace RuleIntake

open Json Wire

/-! ### Match entries -/

namespace MatchEntry

def schema : List (FieldSchema Json MatchEntry) := [
  .of "type" (·.kind) (EnumSpelled [("EXACT", .exact), ("REGEX", .regex),
    ("NOT_EQUALS", .notEquals), ("IN", .isIn), ("NOT_IN", .notIn)]),
  .of "valueType" (·.valueKind) (EnumSpelled [("TEXT", .text), ("PARAMETER", .parameter),
    ("VARIABLE", .variableName)]),
  .of "value" (·.value) StringSpelled]

def Spelled : Json → MatchEntry → Prop := RecordSpelled schema ⟨.exact, .text, ""⟩

end MatchEntry

/-- An object whose keys are the names of the entries. -/
def MatchMetadata.Spelled (j : Json) (m : MatchMetadata) : Prop :=
  EntriesSpelled MatchEntry.Spelled j m.entries

/-! ### Routing -/

namespace Source

def schema : List (FieldSchema Json Source) := [
  .of "namespace" (·.namespaceName) StringSpelled,
  .of "service" (·.service) StringSpelled,
  .of "metadata" (·.metadata) MatchMetadata.Spelled]

def Spelled : Json → Source → Prop := RecordSpelled schema ⟨"", "", .empty⟩

end Source

namespace Destination

def schema : List (FieldSchema Json Destination) := [
  .of "namespace" (·.namespaceName) StringSpelled,
  .of "service" (·.service) StringSpelled,
  .of "metadata" (·.metadata) MatchMetadata.Spelled,
  .of "priority" (·.priority) (OptionSpelled WordSpelled),
  .of "weight" (·.weight) (OptionSpelled WordSpelled),
  .of "transfer" (·.transfer) (OptionSpelled StringSpelled),
  .of "isolate" (·.isolate) (OptionSpelled BoolSpelled)]

def Spelled : Json → Destination → Prop :=
  RecordSpelled schema ⟨"", "", .empty, none, none, none, none⟩

end Destination

namespace Route

def schema : List (FieldSchema Json Route) := [
  .of "sources" (·.sources) (ListSpelled Source.Spelled),
  .of "destinations" (·.destinations) (ListSpelled Destination.Spelled)]

def Spelled : Json → Route → Prop := RecordSpelled schema ⟨[], []⟩

end Route

namespace Routing

def schema : List (FieldSchema Json Routing) := [
  .of "namespace" (·.namespaceName) StringSpelled,
  .of "service" (·.service) StringSpelled,
  .of "inbounds" (·.inbounds) (ListSpelled Route.Spelled),
  .of "outbounds" (·.outbounds) (ListSpelled Route.Spelled),
  .of "revision" (·.revision) (OptionSpelled StringSpelled)]

def Spelled : Json → Routing → Prop := RecordSpelled schema ⟨"", "", [], [], none⟩

end Routing

/-! ### Rate limits -/

namespace Amount

def schema : List (FieldSchema Json Amount) := [
  .of "maxAmount" (·.maxAmount) WordSpelled,
  .of "validDuration" (·.validDuration) StringSpelled]

def Spelled : Json → Amount → Prop := RecordSpelled schema ⟨0, ""⟩

end Amount

namespace RateLimitRule

def schema : List (FieldSchema Json RateLimitRule) := [
  .of "id" (·.id) StringSpelled,
  .of "namespace" (·.namespaceName) StringSpelled,
  .of "service" (·.service) StringSpelled,
  .of "priority" (·.priority) (OptionSpelled WordSpelled),
  .of "resource" (·.resource)
    (OptionSpelled (EnumSpelled [("QPS", .qps), ("CONCURRENCY", .concurrency)])),
  .of "type" (·.limitType)
    (OptionSpelled (EnumSpelled [("GLOBAL", .global), ("LOCAL", .perInstance)])),
  .of "labels" (·.labels) MatchMetadata.Spelled,
  .of "amounts" (·.amounts) (ListSpelled Amount.Spelled),
  .of "action" (·.action) (OptionSpelled StringSpelled),
  .of "disable" (·.disable) (OptionSpelled BoolSpelled),
  .of "revision" (·.revision) (OptionSpelled StringSpelled)]

def Spelled : Json → RateLimitRule → Prop :=
  RecordSpelled schema ⟨"", "", "", none, none, none, .empty, [], none, none, none⟩

end RateLimitRule

namespace RateLimit

def schema : List (FieldSchema Json RateLimit) := [
  .of "rules" (·.rules) (ListSpelled RateLimitRule.Spelled),
  .of "revision" (·.revision) (OptionSpelled StringSpelled)]

def Spelled : Json → RateLimit → Prop := RecordSpelled schema ⟨[], none⟩

end RateLimit

/-- A value spells rules of a kind in the form of that kind. -/
inductive Payload.Spelled : RuleKind → Json → Payload → Prop
  | routing {j : Json} {r : Routing} : Routing.Spelled j r → Spelled .routing j (.routing r)
  | rateLimiting {j : Json} {r : RateLimit} : RateLimit.Spelled j r →
      Spelled .rateLimiting j (.rateLimiting r)

/-! ### What the decoders of fields accept -/

/-- The names of an enumeration without a fallback are the only ones that it knows. -/
lemma ofName?_eq_some_iff {α : Type} {v : Variants α} (hfallback : v.fallback = none)
    (hnames : v.names.Nodup) (name : String) (a : α) :
    v.ofName? name = some a ↔ (name, a) ∈ v.named := by
  rw [Variants.ofName?, hfallback, Option.or_none, Option.map_eq_some_iff]
  constructor
  · rintro ⟨e, he, rfl⟩
    obtain ⟨hmem, rfl⟩ := (find?_eq_some_iff_of_nodup hnames).mp he
    exact hmem
  · intro hmem
    exact ⟨(name, a), (find?_eq_some_iff_of_nodup hnames).mpr ⟨hmem, rfl⟩, rfl⟩

lemma decodes_variants {α : Type} {v : Variants α} (hfallback : v.fallback = none)
    (hnames : v.names.Nodup) : Decodes (Decoder.enumeration v) (EnumSpelled v.named) :=
  decodes_enumeration (ofName?_eq_some_iff hfallback hnames)

lemma decodes_optionalString :
    Decodes (Decoder.optional Decoder.string) (OptionSpelled StringSpelled) :=
  decodes_optional decodes_string (by rintro b ⟨⟩)

lemma decodes_optionalWord :
    Decodes (Decoder.optional Decoder.word) (OptionSpelled WordSpelled) :=
  decodes_optional decodes_word (by rintro b ⟨⟩)

lemma decodes_optionalBoolean :
    Decodes (Decoder.optional Decoder.boolean) (OptionSpelled BoolSpelled) :=
  decodes_optional decodes_boolean (by rintro b ⟨⟩)

lemma decodes_optionalVariants {α : Type} {v : Variants α} (hfallback : v.fallback = none)
    (hnames : v.names.Nodup) :
    Decodes (Decoder.optional (Decoder.enumeration v)) (OptionSpelled (EnumSpelled v.named)) :=
  decodes_optional (decodes_variants hfallback hnames) (by rintro b ⟨⟩)

/-! ### Records -/

namespace MatchEntry

def row : MatchEntry ≃ Row [MatchKind, ValueKind, String] where
  toFun e := (e.kind, e.valueKind, e.value, ())
  invFun p := ⟨p.1, p.2.1, p.2.2.1⟩
  left_inv _ := rfl
  right_inv _ := rfl

lemma implements : Implements fields schema := by
  refine implements_of_row row ?_ (by decide)
  exact
    .cons (decodes_variants rfl (by decide)) <| .cons (decodes_variants rfl (by decide)) <|
    .cons decodes_string .nil

lemma decodes : Decodes decoder Spelled := decodes_record implements _ _

end MatchEntry

namespace MatchMetadata

lemma keysIncrease_of_spelled {j : Json} (hj : j.IsCanonical) {es : List (String × MatchEntry)}
    (h : EntriesSpelled MatchEntry.Spelled j es) : KeysIncrease es := by
  cases h with
  | @object entries _ hes =>
  cases hj with
  | object hkeys _ =>
    have hnames : entries.map (·.1) = es.map (·.1) :=
      map_eq_map_of_forall₂ hes fun e b heb => heb.1
    rw [KeysIncrease, ← hnames]
    exact hkeys

lemma ofEntries_of_increasing {es : List (String × MatchEntry)} (h : KeysIncrease es) :
    ofEntries es = ⟨es, h⟩ := by
  simp only [ofEntries, sortEntries_of_increasing h]

lemma decodes : Decodes decoder Spelled := by
  intro j hj m
  constructor
  · intro h
    obtain ⟨es, hes, rfl⟩ := exists_of_map_eq_ok h
    have hspelled := (decodes_entries MatchEntry.decodes j hj es).mp hes
    rw [ofEntries_of_increasing (keysIncrease_of_spelled hj hspelled)]
    exact hspelled
  · intro h
    have hes := (decodes_entries MatchEntry.decodes j hj m.entries).mpr h
    change (Decoder.entries MatchEntry.decoder j).map ofEntries = .ok m
    rw [hes, Except.map, ofEntries_of_increasing m.increasing]

end MatchMetadata

namespace Source

def row : Source ≃ Row [String, String, MatchMetadata] where
  toFun s := (s.namespaceName, s.service, s.metadata, ())
  invFun p := ⟨p.1, p.2.1, p.2.2.1⟩
  left_inv _ := rfl
  right_inv _ := rfl

lemma implements : Implements fields schema := by
  refine implements_of_row row ?_ (by decide)
  exact .cons decodes_string <| .cons decodes_string <| .cons MatchMetadata.decodes .nil

lemma decodes : Decodes decoder Spelled := decodes_record implements _ _

end Source

namespace Destination

def row : Destination ≃ Row [String, String, MatchMetadata, Option UInt32, Option UInt32,
    Option String, Option Bool] where
  toFun d := (d.namespaceName, d.service, d.metadata, d.priority, d.weight, d.transfer, d.isolate,
    ())
  invFun p := ⟨p.1, p.2.1, p.2.2.1, p.2.2.2.1, p.2.2.2.2.1, p.2.2.2.2.2.1, p.2.2.2.2.2.2.1⟩
  left_inv _ := rfl
  right_inv _ := rfl

lemma implements : Implements fields schema := by
  refine implements_of_row row ?_ (by decide)
  exact
    .cons decodes_string <| .cons decodes_string <| .cons MatchMetadata.decodes <|
    .cons decodes_optionalWord <| .cons decodes_optionalWord <| .cons decodes_optionalString <|
    .cons decodes_optionalBoolean .nil

lemma decodes : Decodes decoder Spelled := decodes_record implements _ _

end Destination

namespace Route

def row : Route ≃ Row [List Source, List Destination] where
  toFun r := (r.sources, r.destinations, ())
  invFun p := ⟨p.1, p.2.1⟩
  left_inv _ := rfl
  right_inv _ := rfl

lemma implements : Implements fields schema := by
  refine implements_of_row row ?_ (by decide)
  exact .cons (decodes_list Source.decodes) <| .cons (decodes_list Destination.decodes) .nil

lemma decodes : Decodes decoder Spelled := decodes_record implements _ _

end Route

namespace Routing

def row : Routing ≃ Row [String, String, List Route, List Route, Option String] where
  toFun r := (r.namespaceName, r.service, r.inbounds, r.outbounds, r.revision, ())
  invFun p := ⟨p.1, p.2.1, p.2.2.1, p.2.2.2.1, p.2.2.2.2.1⟩
  left_inv _ := rfl
  right_inv _ := rfl

lemma implements : Implements fields schema := by
  refine implements_of_row row ?_ (by decide)
  exact
    .cons decodes_string <| .cons decodes_string <| .cons (decodes_list Route.decodes) <|
    .cons (decodes_list Route.decodes) <| .cons decodes_optionalString .nil

lemma decodes : Decodes decoder Spelled := decodes_record implements _ _

end Routing

namespace Amount

def row : Amount ≃ Row [UInt32, String] where
  toFun a := (a.maxAmount, a.validDuration, ())
  invFun p := ⟨p.1, p.2.1⟩
  left_inv _ := rfl
  right_inv _ := rfl

lemma implements : Implements fields schema := by
  refine implements_of_row row ?_ (by decide)
  exact .cons decodes_word <| .cons decodes_string .nil

lemma decodes : Decodes decoder Spelled := decodes_record implements _ _

end Amount

namespace RateLimitRule

def row : RateLimitRule ≃ Row [String, String, String, Option UInt32, Option LimitResource,
    Option LimitType, MatchMetadata, List Amount, Option String, Option Bool, Option String] where
  toFun r := (r.id, r.namespaceName, r.service, r.priority, r.resource, r.limitType, r.labels,
    r.amounts, r.action, r.disable, r.revision, ())
  invFun p := ⟨p.1, p.2.1, p.2.2.1, p.2.2.2.1, p.2.2.2.2.1, p.2.2.2.2.2.1, p.2.2.2.2.2.2.1,
    p.2.2.2.2.2.2.2.1, p.2.2.2.2.2.2.2.2.1, p.2.2.2.2.2.2.2.2.2.1, p.2.2.2.2.2.2.2.2.2.2.1⟩
  left_inv _ := rfl
  right_inv _ := rfl

lemma implements : Implements fields schema := by
  refine implements_of_row row ?_ (by decide)
  exact
    .cons decodes_string <| .cons decodes_string <| .cons decodes_string <|
    .cons decodes_optionalWord <| .cons (decodes_optionalVariants rfl (by decide)) <|
    .cons (decodes_optionalVariants rfl (by decide)) <| .cons MatchMetadata.decodes <|
    .cons (decodes_list Amount.decodes) <| .cons decodes_optionalString <|
    .cons decodes_optionalBoolean <| .cons decodes_optionalString .nil

lemma decodes : Decodes decoder Spelled := decodes_record implements _ _

end RateLimitRule

namespace RateLimit

def row : RateLimit ≃ Row [List RateLimitRule, Option String] where
  toFun r := (r.rules, r.revision, ())
  invFun p := ⟨p.1, p.2.1⟩
  left_inv _ := rfl
  right_inv _ := rfl

lemma implements : Implements fields schema := by
  refine implements_of_row row ?_ (by decide)
  exact .cons (decodes_list RateLimitRule.decodes) <| .cons decodes_optionalString .nil

lemma decodes : Decodes decoder Spelled := decodes_record implements _ _

end RateLimit

lemma Payload.decodes (kind : RuleKind) : Decodes (decoder kind) (Spelled kind) := by
  intro j hj p
  constructor
  · intro h
    cases kind with
    | routing =>
      obtain ⟨r, hr, rfl⟩ := exists_of_map_eq_ok h
      exact .routing ((Routing.decodes j hj r).mp hr)
    | rateLimiting =>
      obtain ⟨r, hr, rfl⟩ := exists_of_map_eq_ok h
      exact .rateLimiting ((RateLimit.decodes j hj r).mp hr)
  · rintro (h | h)
    · change (Routing.decoder j).map Payload.routing = _
      rw [(Routing.decodes j hj _).mpr h]
      rfl
    · change (RateLimit.decoder j).map Payload.rateLimiting = _
      rw [(RateLimit.decodes j hj _).mpr h]
      rfl

/-! ### Rules of a document -/

namespace RawDocument

variable {raw : RawDocument} {kind : RuleKind} {v : Json}

lemma extract_eq_ok_iff (hrules : raw.rules kind = some v) (hv : v.IsCanonical) (p : Payload) :
    raw.extract kind = .ok (some p) ↔ Payload.Spelled kind v p := by
  rw [← Payload.decodes kind v hv]
  cases hd : Payload.decoder kind v <;> simp [extract, hrules, hd]

lemma extract_of_not_spelled (hrules : raw.rules kind = some v) (hv : v.IsCanonical)
    (h : ∀ p, ¬Payload.Spelled kind v p) :
    ∃ m, raw.extract kind = .error (.malformedDocument m) := by
  cases hd : Payload.decoder kind v with
  | error m => exact ⟨.value m, by simp [extract, hrules, hd]⟩
  | ok p => exact absurd ((Payload.decodes kind v hv p).mp hd) (h p)

/-- Rules are read from a value exactly if the value spells them. A document with the value is given
these rules; if there are none it is malformed, and can be made only without rules and without a
revision. -/
theorem extract_iff_spelled (v : Json) (hv : v.IsCanonical) :
    (∀ r, Routing.decoder v = .ok r ↔ Routing.Spelled v r) ∧
      (∀ r, RateLimit.decoder v = .ok r ↔ RateLimit.Spelled v r) ∧
      ∀ (raw : RawDocument) (kind : RuleKind), raw.rules kind = some v →
        (∀ p, raw.extract kind = .ok (some p) ↔ Payload.Spelled kind v p) ∧
        ((∀ p, ¬Payload.Spelled kind v p) →
          ∃ m, raw.extract kind = .error (.malformedDocument m) ∧
            (raw.documentType.ruleKind? = some kind → ∀ config, ∃ d told,
              RuleDocument.construct (some raw) config = .ok (d, told) ∧ d.payload = none ∧
                d.revision = "" ∧ d.validate.outcome = .error (.malformedDocument m))) := by
  refine ⟨Routing.decodes v hv, RateLimit.decodes v hv, fun raw kind hrules =>
    ⟨extract_eq_ok_iff hrules hv, fun hnone => ?_⟩⟩
  obtain ⟨m, hm⟩ := extract_of_not_spelled hrules hv hnone
  refine ⟨m, hm, fun hkind config => ?_⟩
  let made := RuleDocument.ofRaw raw kind config
  have hmade : made.1.kind = some kind := rfl
  have hcontent : made.1.content = .error (.malformedDocument m) := hm
  have hrevision : made.1.revision = "" := by simp only [made, RuleDocument.ofRaw, hm]
  refine ⟨made.1, made.2, RuleDocument.construct_of_ruleKind? hkind config, ?_, hrevision, ?_⟩
  · rw [RuleDocument.payload, hcontent]
  · rw [RuleDocument.validate_outcome hmade, RuleDocument.inspect_of_error hcontent]

/-- The first rule is spelled as an array that breaks off behind the resource, which is spelled as
an object. -/
def unevenRules : Json :=
  .object [("more", .float .zero), ("rules", .array [
    .array [.string "a", .string "", .string "", .integer ⟨0xFFFFFFFF, by decide, by decide⟩,
      .object [("CONCURRENCY", .null)]],
    .object [("amounts", .array [.object [("maxAmount", .integer .zero)]])]])]

/-- A priority is no floating point number. -/
def floatRules : Json := .object [("rules", .array [.object [("priority", .float .zero)]])]

lemma isCanonical_unevenRules : unevenRules.IsCanonical := by
  have hfirst : (Json.array [.string "a", .string "", .string "",
      .integer ⟨0xFFFFFFFF, by decide, by decide⟩,
      .object [("CONCURRENCY", .null)]]).IsCanonical := by
    refine .array ?_
    simp only [List.forall_mem_cons]
    exact ⟨.string _, .string _, .string _, .integer _, .object (by decide) (by simpa using .null),
      List.forall_mem_nil _⟩
  have hsecond : (Json.object [("amounts",
      .array [.object [("maxAmount", .integer .zero)]])]).IsCanonical := by
    refine .object (by decide) ?_
    simpa using .array (by simpa using .object (by decide) (by simpa using .integer _))
  refine .object (by decide) ?_
  simp only [List.forall_mem_cons]
  exact ⟨.float _, .array (by simpa using ⟨hfirst, hsecond⟩), List.forall_mem_nil _⟩

lemma isCanonical_floatRules : floatRules.IsCanonical := by
  refine .object (by decide) ?_
  simpa using .array (by simpa using .object (by decide) (by simpa using .float _))

/-- Rules can be spelled in several ways, and a number of the wrong kind spoils them. -/
theorem extract_unevenRules :
    (∃ first second,
      (ofRules .rateLimiting ⟨"default", "order"⟩ unevenRules).extract .rateLimiting =
        .ok (some (.rateLimiting ⟨[first, second], none⟩)) ∧
      Payload.Spelled .rateLimiting unevenRules (.rateLimiting ⟨[first, second], none⟩) ∧
      first.priority = some 0xFFFFFFFF ∧ first.resource = some .concurrency ∧
      second.amounts = [⟨0, ""⟩]) ∧
    ∃ m d told, (ofRules .rateLimiting ⟨"default", "order"⟩ floatRules).extract .rateLimiting =
        .error (.malformedDocument m) ∧
      RuleDocument.construct (some (ofRules .rateLimiting ⟨"default", "order"⟩ floatRules))
        .default = .ok (d, told) ∧ d.payload = none := by
  constructor
  · have h := (extract_iff_spelled unevenRules isCanonical_unevenRules).2.2
      (ofRules .rateLimiting ⟨"default", "order"⟩ unevenRules) .rateLimiting rfl
    have hread : (ofRules .rateLimiting ⟨"default", "order"⟩ unevenRules).extract .rateLimiting =
        .ok (some (.rateLimiting ⟨[_, _], none⟩)) := rfl
    exact ⟨_, _, hread, (h.1 _).mp hread, rfl, rfl, rfl⟩
  · have h := (extract_iff_spelled floatRules isCanonical_floatRules).2.2
      (ofRules .rateLimiting ⟨"default", "order"⟩ floatRules) .rateLimiting rfl
    have hnone (p : Payload) : ¬Payload.Spelled .rateLimiting floatRules p := by
      rw [← h.1 p]
      nofun
    obtain ⟨m, hm, hmade⟩ := h.2 hnone
    obtain ⟨d, told, hd, hpayload, -⟩ := hmade rfl .default
    exact ⟨m, d, told, hm, hd, hpayload⟩

end RawDocument

end RuleIntake
