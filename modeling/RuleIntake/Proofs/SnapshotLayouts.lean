import Mathlib
import RuleIntake.Proofs.PackedRecords
import RuleIntake.Proofs.PayloadRoundTrip

/-!
# Layouts of snapshots

A snapshot does not have to be written the way snapshots are: a document can be packed as a map or
as an array, its service too, with the fields of a map in any order, blank ones left out and entries
of unknown names added, with all lengths and integers in any form that holds them. It is read as the
same document in every layout.
-/

namespace RuleIntake

open Wire MessagePack

namespace ServiceReference

def packedSchema : List (FieldSchema (List UInt8) ServiceReference) := [
  .of "namespace" (·.namespaceName) (OptionPacked StringPacked),
  .of "name" (·.name) (OptionPacked StringPacked)]

/-- Inside the document, two levels are open. -/
def Packed : List UInt8 → ServiceReference → Prop :=
  RecordPacked packedSchema ⟨none, none⟩ (depthLimit - 2)

end ServiceReference

namespace RawDocument

/-- Rules that are missing are packed like null. -/
def RulesPacked (bytes : List UInt8) (rules : Option Json) : Prop :=
  ValuePacked bytes (.ofOption id rules)

def packedSchema : List (FieldSchema (List UInt8) RawDocument) := [
  .of "type" (·.documentType) fun bytes t => StringPacked bytes t.name,
  .of "service" (·.service) (OptionPacked ServiceReference.Packed),
  .of "routing" (·.routing) RulesPacked,
  .of "rateLimit" (·.rateLimit) RulesPacked]

/-- All layouts of a document, the one of its snapshot among them. -/
def Packed : List UInt8 → RawDocument → Prop :=
  RecordPacked packedSchema ⟨.unknown, none, none, none⟩ (depthLimit - 1)

end RawDocument

/-! ### Reading -/

namespace ServiceReference

lemma isSchema_packedSchema : IsSchema packedSchema :=
  isSchema_of_row row (.cons <| .cons .nil) (by decide)

lemma unpacks (r : ServiceReference) (room : Nat) : Unpacks fields packedSchema room r := by
  refine unpacks_of_row row ?_ (by decide)
  exact .cons (fun _ => yields_optionalString) <| .cons (fun _ => yields_optionalString) .nil

end ServiceReference

namespace RawDocument

variable {raw : RawDocument} {bytes : List UInt8}

lemma yields_type {t : DocumentType} {room : Nat} (h : StringPacked bytes t.name) :
    Yields ((Decoder.enumeration DocumentType.variants).read room) bytes t := by
  have hname : DocumentType.variants.ofName? t.name = some t := by cases t <;> rfl
  intro rest
  simp only [Decoder.enumeration, h.readHead, Decoder.readVariant,
    h.yields_identifier .variantIdentifier room rest, Decoder.variant, hname]
  rfl

lemma yields_service {service : Option ServiceReference}
    (h : OptionPacked ServiceReference.Packed bytes service) :
    Yields ((Decoder.optional ServiceReference.decoder).read (depthLimit - 1)) bytes service := by
  cases h with
  | nil => exact yields_none _ _
  | @some bytes r hr => exact yields_some hr.startsNonNil (hr.yields (r.unpacks _) "WireService")

lemma yields_rules {rules : Option Json} (h : RulesPacked bytes (rules.bind Json.nonNull?))
    (hcanonical : ∀ j ∈ rules, j.IsCanonical) {room : Nat}
    (hdepth : (Json.ofOption id rules).depth ≤ room) :
    Yields ((Decoder.optional Decoder.anyValue).read room) bytes (rules.bind Json.nonNull?) := by
  rw [RulesPacked, ofOption_bind_nonNull?] at h
  exact yields_optionalValue h hcanonical hdepth

def row : RawDocument ≃ Row [DocumentType, Option ServiceReference, Option Json, Option Json] where
  toFun raw := (raw.documentType, raw.service, raw.routing, raw.rateLimit, ())
  invFun p := ⟨p.1, p.2.1, p.2.2.1, p.2.2.2.1⟩
  left_inv _ := rfl
  right_inv _ := rfl

lemma isSchema_packedSchema : IsSchema packedSchema :=
  isSchema_of_row row (.cons <| .cons <| .cons <| .cons .nil) (by decide)

lemma unpacks (hcanonical : raw.IsCanonical) (hdepth : raw.depth ≤ depthLimit) :
    Unpacks fields packedSchema (depthLimit - 1) raw.withoutNulls := by
  have hdepths := (depth_le (n := depthLimit - 1) (by decide)).mp hdepth
  refine unpacks_of_row row ?_ (by decide)
  exact
    .cons (fun _ => yields_type) <|
    .cons (fun _ => yields_service) <|
    .cons (fun _ h => yields_rules h hcanonical.routing hdepths.1) <|
    .cons (fun _ h => yields_rules h hcanonical.rateLimit hdepths.2) .nil

lemma rulesPacked_nonNull? {rules : Option Json} :
    RulesPacked bytes (rules.bind Json.nonNull?) ↔ RulesPacked bytes rules := by
  rw [RulesPacked, RulesPacked, ofOption_bind_nonNull?]

/-- Null is packed like rules that are missing, so that a layout of a document is also one of the
document without the rules that are null. -/
lemma Packed.withoutNulls (h : Packed bytes raw) : Packed bytes raw.withoutNulls := by
  have hspells : ∀ f ∈ packedSchema, ∀ m, f.Spells m (f.get raw) →
      f.Spells m (f.get raw.withoutNulls) := by
    simp only [packedSchema, List.forall_mem_cons]
    exact ⟨fun _ h => h, fun _ h => h, fun _ h => rulesPacked_nonNull?.mpr h,
      fun _ h => rulesPacked_nonNull?.mpr h, List.forall_mem_nil _⟩
  have hmissing {rules : Option Json} (hrules : rules = none) :
      rules.bind Json.nonNull? = none := by
    rw [hrules, Option.bind_none]
  have hblank : ∀ f ∈ packedSchema, f.get raw = f.get ⟨.unknown, none, none, none⟩ →
      f.get raw.withoutNulls = f.get ⟨.unknown, none, none, none⟩ := by
    simp only [packedSchema, List.forall_mem_cons]
    exact ⟨fun h => h, fun h => h, hmissing, hmissing, List.forall_mem_nil _⟩
  cases h with
  | map hhead hbody h =>
    exact .map hhead hbody ⟨h.spelled.imp hspells hblank, h.once, h.others⟩
  | array hhead h => exact .array hhead ⟨h.length_le, h.entries.imp hspells hblank⟩

end RawDocument

/-! ### Snapshots -/

lemma optionPacked_encodeString {s : Option String} (h : ∀ t ∈ s, LengthFits t) :
    OptionPacked StringPacked (encodeValue (.ofOption .string s)) s := by
  cases s with
  | none => exact .nil
  | some t => exact .some (packed_encodeString (h t rfl))

lemma ServiceReference.packed_encodeValue {r : ServiceReference} (h : r.LengthsFit) :
    Packed (encodeValue (.object r.parts)) r := by
  have hkeys : ∀ e ∈ r.parts, LengthFits e.1 := by
    simp only [parts, List.forall_mem_cons]
    exact ⟨by decide, by decide, List.forall_mem_nil _⟩
  refine recordPacked_encodeValue isSchema_packedSchema (by simp [parts]) hkeys ?_ _ _
  exact .cons ⟨rfl, optionPacked_encodeString h.namespaceName⟩ <|
    .cons ⟨rfl, optionPacked_encodeString h.name⟩ .nil

namespace RawDocument

variable {raw : RawDocument} {bytes : List UInt8}

/-- A snapshot has one of the layouts. -/
lemma packed_snapshot (h : raw.LengthsFit) : Packed raw.snapshot raw := by
  have hkeys : ∀ e ∈ raw.parts, LengthFits e.1 := by
    simp only [parts, List.forall_mem_cons]
    exact ⟨by decide, by decide, by decide, by decide, List.forall_mem_nil _⟩
  have htype : StringPacked (encodeString raw.documentType.name) raw.documentType.name :=
    packed_encodeString (by cases raw.documentType <;> decide)
  have hservice : OptionPacked ServiceReference.Packed
      (encodeValue (.ofOption (fun r => .object r.parts) raw.service)) raw.service := by
    cases hr : raw.service with
    | none => exact .nil
    | some r => exact .some (ServiceReference.packed_encodeValue (h.service r hr))
  have hrules {rules : Option Json} (hlengths : ∀ j ∈ rules, j.LengthsFit) :
      RulesPacked (encodeValue (.ofOption id rules)) rules := by
    cases rules with
    | none => exact .null
    | some j => exact MessagePack.packed_encodeValue (hlengths j rfl)
  refine recordPacked_encodeValue isSchema_packedSchema (by simp [parts]) hkeys ?_ _ _
  exact .cons ⟨rfl, htype⟩ <| .cons ⟨rfl, hservice⟩ <|
    .cons ⟨rfl, hrules h.routing⟩ <| .cons ⟨rfl, hrules h.rateLimit⟩ .nil

/-- In every layout, bytes are read as the same document, without the rules that are null and
whatever comes behind it. The layout of its snapshot is one of them. -/
theorem ofSnapshot_packed (raw : RawDocument) (hcanonical : raw.IsCanonical)
    (hdepth : raw.depth ≤ depthLimit) :
    (raw.LengthsFit → Packed raw.snapshot raw) ∧
      ∀ bytes, Packed bytes raw → ∀ rest, ofSnapshot (bytes ++ rest) = .ok raw.withoutNulls := by
  refine ⟨packed_snapshot, fun bytes h rest => ?_⟩
  have hread := h.withoutNulls.yields (unpacks hcanonical hdepth) "RawRuleDocument" rest
  change ((decoder : Decoder RawDocument).read depthLimit (bytes ++ rest)) = _ at hread
  rw [ofSnapshot, Decoder.run, hread]
  rfl

def looseRouting : Json := .object [("a", .integer ⟨1, by decide, by decide⟩), ("b", .array [])]

def loose : RawDocument := ⟨.unknown, some ⟨none, some "order"⟩, some looseRouting, some .null⟩

/-- The keys of the rules are out of order, and their lengths and integers have more bytes than they
need. -/
def looseRoutingBytes : List UInt8 :=
  [0xDF, 0, 0, 0, 2, 0xA1, 0x62, 0xDC, 0, 0, 0xA1, 0x61, 0xCF, 0, 0, 0, 0, 0, 0, 0, 1]

/-- The service is an array in which the namespace is missing. -/
def looseServiceBytes : List UInt8 := [0x92, 0xC0, 0xA5, 0x6F, 0x72, 0x64, 0x65, 0x72]

/-- The type is left out, and an entry of the name `more` is added. -/
def looseBytes : List UInt8 :=
  [0xDE, 0, 4,
    0xA4, 0x6D, 0x6F, 0x72, 0x65, 0xD1, 0xFF, 0xFF,
    0xD9, 9, 0x72, 0x61, 0x74, 0x65, 0x4C, 0x69, 0x6D, 0x69, 0x74, 0xC0,
    0xA7, 0x73, 0x65, 0x72, 0x76, 0x69, 0x63, 0x65] ++ looseServiceBytes ++
    [0xA7, 0x72, 0x6F, 0x75, 0x74, 0x69, 0x6E, 0x67] ++ looseRoutingBytes

lemma packed_looseRouting : ValuePacked looseRoutingBytes looseRouting := by
  have hbytes : looseRoutingBytes = withWord 0xDF 4 2 ++ (encodeString "b" ++ withWord 0xDC 2 0 ++
      (encodeString "a" ++ withWord 0xCF 8 1 ++ [])) := by decide
  rw [hbytes]
  refine @ValuePacked.object _ _ [("b", withWord 0xDC 2 0, .array []),
    ("a", withWord 0xCF 8 1, .integer ⟨1, by decide, by decide⟩)] _
    (.inWord (by decide) (by decide)) ?_ ?_ (.swap _ _ _)
  · exact .cons (packed_encodeString (by decide)) (.cons (packed_encodeString (by decide)) .nil)
  · simp only [List.forall_mem_cons]
    exact ⟨@ValuePacked.array (withWord 0xDC 2 0) [] (.inWord (by decide) (by decide))
        (List.forall_mem_nil _),
      .integer (.unsigned (.inWord (by decide) (by decide))), List.forall_mem_nil _⟩

lemma packed_looseService : ServiceReference.Packed looseServiceBytes ⟨none, some "order"⟩ := by
  have hbytes : looseServiceBytes = [0x92] ++ [nilBytes, encodeString "order"].flatten := by decide
  have hhead : Forms.array.Holds [0x92] 2 := @Forms.Holds.inMarker Forms.array 2 (by decide)
  have hname : OptionPacked StringPacked (encodeString "order") (some "order") :=
    .some (packed_encodeString (by decide))
  rw [hbytes]
  refine .array hhead ⟨by decide, ?_⟩
  refine spelledByEntries_of_fields ServiceReference.isSchema_packedSchema ?_ (.refl _)
  exact .cons ⟨rfl, .nil⟩ <| .cons ⟨rfl, hname⟩ .nil

lemma packed_loose : Packed looseBytes loose := by
  have hbytes : looseBytes = withWord 0xDE 2 4 ++ (encodeString "more" ++ [0xD1, 0xFF, 0xFF] ++
      ((withWord 0xD9 1 9 ++ Utf8.encode "rateLimit") ++ nilBytes ++
        (encodeString "service" ++ looseServiceBytes ++
          (encodeString "routing" ++ looseRoutingBytes ++ [])))) := by decide
  have hword : [0xD1, 0xFF, 0xFF] = withWord 0xD1 2 ((-1 : Int) % 2 ^ (8 * 2)).toNat := by decide
  have hmore : ValuePacked [0xD1, 0xFF, 0xFF] (.integer ⟨-1, by decide, by decide⟩) := by
    rw [hword]
    exact .integer (.signed (by decide) (by decide) (by decide))
  rw [hbytes]
  refine .map (.inWord (by decide) (by decide))
    (.cons (packed_encodeString (by decide)) <| .cons (.string (.inWord (by decide) (by decide))) <|
      .cons (packed_encodeString (by decide)) <| .cons (packed_encodeString (by decide)) .nil)
    ⟨⟨?_, ?_⟩, ?_, ?_⟩
  · simp only [packedSchema, List.forall_mem_cons]
    refine ⟨fun m hm => ?_, fun m hm => ?_, fun m hm => ?_, fun m hm => ?_, List.forall_mem_nil _⟩
    · simp [FieldSchema.of] at hm
    · obtain rfl : m = looseServiceBytes := by simpa [FieldSchema.of] using hm
      exact .some packed_looseService
    · obtain rfl : m = looseRoutingBytes := by simpa [FieldSchema.of] using hm
      exact packed_looseRouting
    · obtain rfl : m = nilBytes := by simpa [FieldSchema.of] using hm
      exact ValuePacked.null
  · simp only [packedSchema, List.forall_mem_cons]
    exact ⟨fun _ => rfl, fun h => absurd (by decide) h, fun h => absurd (by decide) h,
      fun h => absurd (by decide) h, List.forall_mem_nil _⟩
  · simp only [packedSchema, List.forall_mem_cons]
    exact ⟨by decide, by decide, by decide, by decide, List.forall_mem_nil _⟩
  · simp only [packedSchema, List.forall_mem_cons]
    refine ⟨fun _ => ⟨_, hmore, by decide⟩, fun h => ?_, fun h => ?_, fun h => ?_,
      List.forall_mem_nil _⟩
    · exact absurd rfl h.2.2.2.1
    · exact absurd rfl h.2.1
    · exact absurd rfl h.2.2.1

lemma isCanonical_loose : loose.IsCanonical where
  routing := by
    rintro j ⟨⟩
    refine .object (by decide) ?_
    simp only [List.forall_mem_cons]
    exact ⟨.integer _, .array (List.forall_mem_nil _), List.forall_mem_nil _⟩
  rateLimit := by
    rintro j ⟨⟩
    exact .null

lemma lengthsFit_loose : loose.LengthsFit where
  service := by
    rintro r ⟨⟩
    exact ⟨by rintro s ⟨⟩, by rintro s ⟨⟩; decide⟩
  routing := by
    rintro j ⟨⟩
    refine .object (by decide) (by simp only [List.forall_mem_cons]; decide) ?_
    simp only [List.forall_mem_cons]
    exact ⟨.integer _, .array (by decide) (List.forall_mem_nil _), List.forall_mem_nil _⟩
  rateLimit := by
    rintro j ⟨⟩
    exact .null

/-- The layout of a snapshot and one that is far from it are read alike. -/
theorem ofSnapshot_looseBytes :
    ofSnapshot (looseBytes ++ [0xC1]) = .ok { loose with rateLimit := none } ∧
      ofSnapshot (loose.snapshot ++ [0xC1]) = .ok { loose with rateLimit := none } ∧
      looseBytes ≠ loose.snapshot := by
  have h := ofSnapshot_packed loose isCanonical_loose (by decide)
  exact ⟨h.2 _ packed_loose _, h.2 _ (h.1 lengthsFit_loose) _, by decide⟩

end RawDocument

end RuleIntake
