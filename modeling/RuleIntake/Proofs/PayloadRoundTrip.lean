import Mathlib
import RuleIntake.Proofs.Completion
import RuleIntake.Proofs.KeyOrder
import RuleIntake.Proofs.PayloadSchema

/-!
# Rules are read back

Rules, the records that they are made of and the names of services are written as values that spell
them, with every field under its wire name. So they are read back from what was written, and
different ones are written differently. Completed rules are read back as complete.
-/

namespace RuleIntake

namespace Json

open Wire

variable {α β : Type}

/-! ### Writing what is spelled -/

/-- Whatever is written is spelled by what is written, and its keys are in order. -/
def Writes (S : Json → α → Prop) (toJson : α → Json) : Prop :=
  ∀ a, S (toJson a) a ∧ (toJson a).IsCanonical

lemma writes_string : Writes StringSpelled .string := fun s => ⟨.string s, .string s⟩

lemma writes_bool : Writes BoolSpelled .bool := fun b => ⟨.bool b, .bool b⟩

lemma writes_word : Writes WordSpelled ofWord := fun _ => ⟨.integer rfl, .integer _⟩

lemma writes_option {S : Json → β → Prop} {toJson : β → Json} (h : Writes S toJson) :
    Writes (OptionSpelled S) (ofOption toJson) := by
  rintro (_ | b)
  · exact ⟨.null, .null⟩
  · exact ⟨.some (h b).1, (h b).2⟩

lemma writes_list {S : Json → β → Prop} {toJson : β → Json} (h : Writes S toJson) :
    Writes (ListSpelled S) fun bs => .array (bs.map toJson) := by
  intro bs
  constructor
  · apply ListSpelled.array
    rw [List.forall₂_map_left_iff, List.forall₂_same]
    intro b _
    exact (h b).1
  · apply IsCanonical.array
    intro j hj
    obtain ⟨b, -, rfl⟩ := List.mem_map.mp hj
    exact (h b).2

lemma writes_name {names : List (String × β)} {name : β → String}
    (h : ∀ b, (name b, b) ∈ names) : Writes (EnumSpelled names) fun b => .string (name b) :=
  fun b => ⟨.name (h b), .string _⟩

lemma isCanonical_ofEntries {entries : List (String × Json)}
    (h : ∀ e ∈ entries, e.2.IsCanonical) : (ofEntries entries).IsCanonical :=
  .object (keysIncrease_sortEntries entries) fun e he => h e (mem_sortEntries he)

/-- An entry is a field of a record: its name, and what spells its part. -/
def IsFieldOf (a : α) (f : FieldSchema Json α) (e : String × Json) : Prop :=
  f.name = e.1 ∧ f.Spells e.2 (f.get a) ∧ e.2.IsCanonical

section Records

variable {schema : List (FieldSchema Json α)} {fields : α → List (String × Json)}

lemma writes_record (hschema : IsSchema schema)
    (h : ∀ a, List.Forall₂ (IsFieldOf a) schema (fields a)) (blank : α) :
    Writes (RecordSpelled schema blank) fun a => .ofEntries (fields a) := by
  intro a
  have hnames : schema.map (·.name) = (fields a).map (·.1) :=
    map_eq_map_of_forall₂ (h a) fun f e he => he.1
  constructor
  · apply RecordSpelled.object
    apply spelledByEntries_of_fields hschema ((h a).imp fun f e he => ⟨he.1, he.2.1⟩)
    apply sortEntries_perm
    rw [← hnames]
    exact hschema.nodup
  · apply isCanonical_ofEntries
    intro e he
    obtain ⟨f, -, -, -, hcanonical⟩ := exists_mem_of_forall₂ (h a).flip e he
    exact hcanonical

end Records

/-! ### Reading back -/

/-- What is written spells what it is written from and is read back; so different ones are written
differently. -/
structure ReadBack (S : Json → α → Prop) (d : Decoder α) (toJson : α → Json) : Prop where
  written : Writes S toJson
  decoded : ∀ a, d (toJson a) = .ok a
  injective : Function.Injective toJson

lemma readBack_of_decoded {S : Json → α → Prop} {d : Decoder α} {toJson : α → Json}
    (hwritten : Writes S toJson) (hdecoded : ∀ a, d (toJson a) = .ok a) :
    ReadBack S d toJson := by
  refine ⟨hwritten, hdecoded, fun a b heq => ?_⟩
  have hb := hdecoded b
  rw [← heq, hdecoded a] at hb
  exact Except.ok.inj hb

lemma readBack_of_decodes {S : Json → α → Prop} {d : Decoder α} {toJson : α → Json}
    (hd : Decodes d S) (hwritten : Writes S toJson) : ReadBack S d toJson :=
  readBack_of_decoded hwritten fun a => (hd _ (hwritten a).2 a).mpr (hwritten a).1

/-- Records are written as objects of the given fields, and are read back. -/
structure RoundTrips (names : List String) (S : Json → α → Prop) (d : Decoder α)
    (toJson : α → Json) : Prop extends ReadBack S d toJson where
  fields : ∀ a, ∃ entries, toJson a = .object entries ∧ (entries.map (·.1)).Perm names

section Records

variable {schema : List (FieldSchema Json α)} {fields : α → List (String × Json)}

lemma keys_of_fields (hschema : IsSchema schema)
    (h : ∀ a, List.Forall₂ (IsFieldOf a) schema (fields a)) (a : α) :
    ∃ entries, Json.ofEntries (fields a) = .object entries ∧
      (entries.map (·.1)).Perm (schema.map (·.name)) := by
  refine ⟨_, rfl, ?_⟩
  have hnames : schema.map (·.name) = (fields a).map (·.1) :=
    map_eq_map_of_forall₂ (h a) fun f e he => he.1
  rw [hnames]
  apply List.Perm.map
  apply sortEntries_perm
  rw [← hnames]
  exact hschema.nodup

lemma roundTrips_record {decoders : List (Field Decoder α)}
    (himplements : Implements decoders schema)
    (h : ∀ a, List.Forall₂ (IsFieldOf a) schema (fields a)) (name : String) (blank : α) :
    RoundTrips (schema.map (·.name)) (RecordSpelled schema blank)
      (Decoder.record name decoders blank) fun a => .ofEntries (fields a) :=
  ⟨readBack_of_decodes (decodes_record himplements name blank)
    (writes_record himplements.isSchema h blank), keys_of_fields himplements.isSchema h⟩

end Records

end Json

open Json Wire

/-! ### Records -/

lemma MatchEntry.roundTrips :
    RoundTrips ["type", "valueType", "value"] Spelled decoder toJson := by
  refine roundTrips_record implements (fun e => ?_) _ _
  exact
    .cons ⟨rfl, writes_name (by rintro ⟨⟩ <;> decide) e.kind⟩ <|
    .cons ⟨rfl, writes_name (by rintro ⟨⟩ <;> decide) e.valueKind⟩ <|
    .cons ⟨rfl, writes_string _⟩ .nil

lemma MatchMetadata.readBack : ReadBack Spelled decoder toJson := by
  refine readBack_of_decodes decodes fun m => ?_
  have hkeys : KeysIncrease (m.entries.map fun e => (e.1, e.2.toJson)) := by
    have hincreasing := m.increasing
    rw [KeysIncrease] at hincreasing ⊢
    rwa [List.map_map]
  have hjson : m.toJson = .object (m.entries.map fun e => (e.1, e.2.toJson)) := by
    rw [toJson, Json.ofEntries, sortEntries_of_increasing hkeys]
  rw [hjson]
  constructor
  · apply EntriesSpelled.object
    rw [List.forall₂_map_left_iff, List.forall₂_same]
    intro e _
    exact ⟨rfl, (MatchEntry.roundTrips.written e.2).1⟩
  · refine .object hkeys fun e he => ?_
    obtain ⟨entry, -, rfl⟩ := List.mem_map.mp he
    exact (MatchEntry.roundTrips.written entry.2).2

lemma Source.roundTrips :
    RoundTrips ["namespace", "service", "metadata"] Spelled decoder toJson := by
  refine roundTrips_record implements (fun s => ?_) _ _
  exact
    .cons ⟨rfl, writes_string _⟩ <|
    .cons ⟨rfl, writes_string _⟩ <|
    .cons ⟨rfl, MatchMetadata.readBack.written _⟩ .nil

lemma Destination.roundTrips :
    RoundTrips ["namespace", "service", "metadata", "priority", "weight", "transfer", "isolate"]
      Spelled decoder toJson := by
  refine roundTrips_record implements (fun d => ?_) _ _
  exact
    .cons ⟨rfl, writes_string _⟩ <|
    .cons ⟨rfl, writes_string _⟩ <|
    .cons ⟨rfl, MatchMetadata.readBack.written _⟩ <|
    .cons ⟨rfl, writes_option writes_word _⟩ <|
    .cons ⟨rfl, writes_option writes_word _⟩ <|
    .cons ⟨rfl, writes_option writes_string _⟩ <|
    .cons ⟨rfl, writes_option writes_bool _⟩ .nil

lemma Route.roundTrips : RoundTrips ["sources", "destinations"] Spelled decoder toJson := by
  refine roundTrips_record implements (fun r => ?_) _ _
  exact
    .cons ⟨rfl, writes_list Source.roundTrips.written _⟩ <|
    .cons ⟨rfl, writes_list Destination.roundTrips.written _⟩ .nil

lemma Routing.roundTrips :
    RoundTrips ["namespace", "service", "inbounds", "outbounds", "revision"] Spelled decoder
      toJson := by
  refine roundTrips_record implements (fun r => ?_) _ _
  exact
    .cons ⟨rfl, writes_string _⟩ <|
    .cons ⟨rfl, writes_string _⟩ <|
    .cons ⟨rfl, writes_list Route.roundTrips.written _⟩ <|
    .cons ⟨rfl, writes_list Route.roundTrips.written _⟩ <|
    .cons ⟨rfl, writes_option writes_string _⟩ .nil

lemma Amount.roundTrips :
    RoundTrips ["maxAmount", "validDuration"] Spelled decoder toJson := by
  refine roundTrips_record implements (fun a => ?_) _ _
  exact .cons ⟨rfl, writes_word _⟩ <| .cons ⟨rfl, writes_string _⟩ .nil

lemma RateLimitRule.roundTrips :
    RoundTrips ["id", "namespace", "service", "priority", "resource", "type", "labels", "amounts",
      "action", "disable", "revision"] Spelled decoder toJson := by
  refine roundTrips_record implements (fun r => ?_) _ _
  exact
    .cons ⟨rfl, writes_string _⟩ <|
    .cons ⟨rfl, writes_string _⟩ <|
    .cons ⟨rfl, writes_string _⟩ <|
    .cons ⟨rfl, writes_option writes_word _⟩ <|
    .cons ⟨rfl, writes_option (writes_name (by rintro ⟨⟩ <;> decide)) r.resource⟩ <|
    .cons ⟨rfl, writes_option (writes_name (by rintro ⟨⟩ <;> decide)) r.limitType⟩ <|
    .cons ⟨rfl, MatchMetadata.readBack.written _⟩ <|
    .cons ⟨rfl, writes_list Amount.roundTrips.written _⟩ <|
    .cons ⟨rfl, writes_option writes_string _⟩ <|
    .cons ⟨rfl, writes_option writes_bool _⟩ <|
    .cons ⟨rfl, writes_option writes_string _⟩ .nil

lemma RateLimit.roundTrips : RoundTrips ["rules", "revision"] Spelled decoder toJson := by
  refine roundTrips_record implements (fun r => ?_) _ _
  exact
    .cons ⟨rfl, writes_list RateLimitRule.roundTrips.written _⟩ <|
    .cons ⟨rfl, writes_option writes_string _⟩ .nil

/-! ### Services -/

namespace ServiceReference

def schema : List (FieldSchema Json ServiceReference) := [
  .of "namespace" (·.namespaceName) (OptionSpelled StringSpelled),
  .of "name" (·.name) (OptionSpelled StringSpelled)]

def Spelled : Json → ServiceReference → Prop := RecordSpelled schema ⟨none, none⟩

def row : ServiceReference ≃ Row [Option String, Option String] where
  toFun r := (r.namespaceName, r.name, ())
  invFun p := ⟨p.1, p.2.1⟩
  left_inv _ := rfl
  right_inv _ := rfl

lemma implements : Implements fields schema := by
  refine implements_of_row row ?_ (by decide)
  exact .cons decodes_optionalString <| .cons decodes_optionalString .nil

lemma roundTrips : RoundTrips ["namespace", "name"] Spelled decoder toJson := by
  refine roundTrips_record implements (fun r => ?_) _ _
  exact
    .cons ⟨rfl, writes_option writes_string _⟩ <|
    .cons ⟨rfl, writes_option writes_string _⟩ .nil

end ServiceReference

namespace ServiceKey

def schema : List (FieldSchema Json ServiceKey) := [
  .of "namespace" (·.namespaceName) StringSpelled,
  .of "service" (·.service) StringSpelled]

def row : ServiceKey ≃ Row [String, String] where
  toFun key := (key.namespaceName, key.service, ())
  invFun p := ⟨p.1, p.2.1⟩
  left_inv _ := rfl
  right_inv _ := rfl

lemma isSchema : IsSchema schema :=
  isSchema_of_row row (.cons <| .cons .nil) (by decide)

lemma decoder_toJson (key : ServiceKey) : decoder key.toJson = .ok key := by
  have hkeys : KeysIncrease [("namespace", Json.string key.namespaceName),
      ("service", .string key.service)] := by
    rw [KeysIncrease, List.map_cons, List.map_singleton, List.pairwise_pair]
    exact (by decide : "namespace" < "service")
  rw [toJson, Json.ofEntries, sortEntries_of_increasing hkeys]
  rfl

/-- No part of a key is left out. -/
lemma roundTrips :
    RoundTrips ["namespace", "service"] (RecordSpelled schema .empty) decoder toJson := by
  have hfields (key : ServiceKey) : List.Forall₂ (IsFieldOf key) schema
      [("namespace", .string key.namespaceName), ("service", .string key.service)] :=
    .cons ⟨rfl, writes_string _⟩ <| .cons ⟨rfl, writes_string _⟩ .nil
  exact ⟨readBack_of_decoded (writes_record isSchema hfields .empty) decoder_toJson,
    keys_of_fields isSchema hfields⟩

end ServiceKey

/-! ### Rules of a document -/

namespace Payload

lemma decoder_toJson (p : Payload) : decoder p.kind p.toJson = .ok p := by
  cases p with
  | routing r => exact congrArg (Except.map routing) (Routing.roundTrips.decoded r)
  | rateLimiting r => exact congrArg (Except.map rateLimiting) (RateLimit.roundTrips.decoded r)

lemma extract_toJson (p : Payload) (key : ServiceKey) :
    (RawDocument.ofRules p.kind key p.toJson).extract p.kind = .ok (some p) := by
  have hrules : (RawDocument.ofRules p.kind key p.toJson).rules p.kind = some p.toJson := by
    cases p <;> rfl
  simp only [RawDocument.extract, hrules, decoder_toJson]

/-- All that rules are made of is written under its field names and read back. Rules that have been
completed are read back from a document that delivers them, and are complete as they are. -/
theorem wire_roundTrips :
    RoundTrips ["type", "valueType", "value"] MatchEntry.Spelled MatchEntry.decoder
        MatchEntry.toJson ∧
      ReadBack MatchMetadata.Spelled MatchMetadata.decoder MatchMetadata.toJson ∧
      RoundTrips ["namespace", "service", "metadata"] Source.Spelled Source.decoder
        Source.toJson ∧
      RoundTrips
        ["namespace", "service", "metadata", "priority", "weight", "transfer", "isolate"]
        Destination.Spelled Destination.decoder Destination.toJson ∧
      RoundTrips ["sources", "destinations"] Route.Spelled Route.decoder Route.toJson ∧
      RoundTrips ["namespace", "service", "inbounds", "outbounds", "revision"] Routing.Spelled
        Routing.decoder Routing.toJson ∧
      RoundTrips ["maxAmount", "validDuration"] Amount.Spelled Amount.decoder Amount.toJson ∧
      RoundTrips ["id", "namespace", "service", "priority", "resource", "type", "labels",
        "amounts", "action", "disable", "revision"] RateLimitRule.Spelled RateLimitRule.decoder
        RateLimitRule.toJson ∧
      RoundTrips ["rules", "revision"] RateLimit.Spelled RateLimit.decoder RateLimit.toJson ∧
      RoundTrips ["namespace", "name"] ServiceReference.Spelled ServiceReference.decoder
        ServiceReference.toJson ∧
      RoundTrips ["namespace", "service"] (RecordSpelled ServiceKey.schema .empty)
        ServiceKey.decoder ServiceKey.toJson ∧
      ∀ (p : Payload) (key : ServiceKey),
        (RawDocument.ofRules p.kind key p.toJson).extract p.kind = .ok (some p) ∧
          (RawDocument.ofRules p.kind key (p.withDefaults p.kind).toJson).extract p.kind =
            .ok (some (p.withDefaults p.kind)) ∧
          (p.withDefaults p.kind).withDefaults p.kind = p.withDefaults p.kind := by
  refine ⟨MatchEntry.roundTrips, MatchMetadata.readBack, Source.roundTrips,
    Destination.roundTrips, Route.roundTrips, Routing.roundTrips, Amount.roundTrips,
    RateLimitRule.roundTrips, RateLimit.roundTrips, ServiceReference.roundTrips,
    ServiceKey.roundTrips,
    fun p key => ⟨extract_toJson p key, ?_, withDefaults_withDefaults p.kind p⟩⟩
  have h := extract_toJson (p.withDefaults p.kind) key
  rw [kind_withDefaults] at h
  exact h

end Payload

end RuleIntake
