import Mathlib
import RuleIntake.Proofs.PayloadRoundTrip
import RuleIntake.Proofs.SnapshotRoundTrip
import RuleIntake.Proofs.TextNesting

/-!
# Documents are read back

A raw document is read back from its text, except that rules which are null count as missing. Where
its rules nest deeper than the reader may go, the text is refused for it.
-/

namespace RuleIntake

namespace Json

lemma repeatsNoKey_of_isCanonical {j : Json} (h : j.IsCanonical) : j.RepeatsNoKey := by
  induction h with
  | null => exact .null
  | bool b => exact .bool b
  | integer n => exact .integer n
  | float x => exact .float x
  | string s => exact .string s
  | array _ ih => exact .array ih
  | object hkeys _ ih => exact .object hkeys.nodup ih

/-- What the entry of a field spells is put into the record. -/
lemma Decoder.readEntries_field {α β : Type} {fields : List (Wire.Field Decoder α)} {key : String}
    {d : Decoder β} {put : β → α → α} {j : Json} {b : β}
    (hfind : fields.find? (·.name == key) = some (.of key d put)) (hread : d j = .ok b) (record : α)
    (more : List (String × Json)) :
    Decoder.readEntries fields record ((key, j) :: more) =
      Decoder.readEntries fields (put b record) more := by
  have hput : (Wire.Field.of key d put).read j = .ok (put b) := by
    change (d j).map put = _
    rw [hread]
    rfl
  rw [Decoder.readEntries, hfind]
  simp only [hput]

end Json

/-! ### Documents -/

open Json Wire

lemma ServiceReference.normal_parts (r : ServiceReference) :
    (Json.object r.parts).normal = r.toJson := by
  obtain ⟨ns, name⟩ := r
  cases ns <;> cases name <;> rfl

namespace RawDocument

structure IsFloatFree (raw : RawDocument) : Prop where
  routing : ∀ j ∈ raw.routing, j.IsFloatFree
  rateLimit : ∀ j ∈ raw.rateLimit, j.IsFloatFree

section Parts

variable {raw : RawDocument}

/-- What holds of null, of strings, of the rules of a document and of objects of which it holds
entry by entry, holds of the whole document. -/
lemma parts_induction {P : Json → Prop} (hnull : P .null) (hstring : ∀ s, P (.string s))
    (hobject : ∀ entries : List (String × Json), (entries.map (·.1)).Nodup →
      (∀ e ∈ entries, P e.2) → P (.object entries))
    (hrouting : ∀ j ∈ raw.routing, P j) (hrateLimit : ∀ j ∈ raw.rateLimit, P j) :
    P (.object raw.parts) := by
  have hoption {α : Type} {toJson : α → Json} {a : Option α} (ha : ∀ b ∈ a, P (toJson b)) :
      P (Json.ofOption toJson a) := by
    cases a with
    | none => exact hnull
    | some b => exact ha b rfl
  have hservice (r : ServiceReference) : P (.object r.parts) := by
    apply hobject
    · exact (by decide : ["namespace", "name"].Nodup)
    · simp only [ServiceReference.parts, List.forall_mem_cons]
      exact ⟨hoption fun s _ => hstring s, hoption fun s _ => hstring s, List.forall_mem_nil _⟩
  apply hobject
  · exact (by decide : ["type", "service", "routing", "rateLimit"].Nodup)
  · simp only [parts, List.forall_mem_cons]
    exact ⟨hstring _, hoption fun r _ => hservice r, hoption hrouting, hoption hrateLimit,
      List.forall_mem_nil _⟩

lemma isFloatFree_parts (h : raw.IsFloatFree) : (Json.object raw.parts).IsFloatFree :=
  parts_induction .null .string (fun _ _ => .object) h.routing h.rateLimit

lemma repeatsNoKey_parts (h : raw.IsCanonical) : (Json.object raw.parts).RepeatsNoKey :=
  parts_induction .null .string (fun _ => .object)
    (fun j hj => repeatsNoKey_of_isCanonical (h.routing j hj))
    (fun j hj => repeatsNoKey_of_isCanonical (h.rateLimit j hj))

lemma forall_parts (hcanonical : raw.IsCanonical) (hfree : raw.IsFloatFree) :
    ∀ e ∈ raw.parts, e.2.IsFloatFree ∧ e.2.RepeatsNoKey := by
  intro e he
  constructor
  · cases isFloatFree_parts hfree with
    | object hparts => exact hparts e he
  · cases repeatsNoKey_parts hcanonical with
    | object _ hparts => exact hparts e he

lemma decoder_type (t : DocumentType) :
    Decoder.enumeration DocumentType.variants (Json.string t.name).normal = .ok t := by
  cases t <;> rfl

lemma decoder_service (service : Option ServiceReference) :
    Decoder.optional ServiceReference.decoder
      (Json.ofOption (fun r => .object (ServiceReference.parts r)) service).normal =
        .ok service := by
  cases service with
  | none => rfl
  | some r =>
    rw [Json.ofOption, r.normal_parts]
    change ((ServiceReference.decoder : Decoder ServiceReference) r.toJson).map some = _
    rw [ServiceReference.roundTrips.decoded r]
    rfl

lemma decoder_rules {rules : Option Json} (h : ∀ j ∈ rules, j.IsCanonical) :
    Decoder.optional Except.ok (Json.ofOption id rules).normal =
      .ok (rules.bind Json.nonNull?) := by
  obtain _ | j := rules
  · rfl
  · rw [Json.ofOption, id, normal_of_isCanonical j (h j rfl)]
    cases j <;> rfl

/-- In declaration order, the parts are put into their fields. -/
lemma readEntries_parts (h : raw.IsCanonical) :
    Decoder.readEntries fields blank (normalEntries raw.parts) = .ok raw.withoutNulls := by
  have htype := decoder_type raw.documentType
  have hservice := decoder_service raw.service
  have hrouting := decoder_rules h.routing
  have hrateLimit := decoder_rules h.rateLimit
  simp only [parts, normalEntries]
  rw [Decoder.readEntries_field rfl htype, Decoder.readEntries_field rfl hservice,
    Decoder.readEntries_field rfl hrouting, Decoder.readEntries_field rfl hrateLimit]
  rfl

lemma decoder_parts (h : raw.IsCanonical) :
    (decoder : Decoder RawDocument) (Json.object raw.parts).normal = .ok raw.withoutNulls := by
  have hkeys : ((normalEntries raw.parts).map (·.1)).Nodup := by
    rw [map_keys_normalEntries]
    exact (by decide : ["type", "service", "routing", "rateLimit"].Nodup)
  have hsame := Decoder.readEntries_of_perm commute_fields (sortEntries_perm hkeys).symm hkeys blank
  rw [readEntries_parts h] at hsame
  change Decoder.readEntries fields blank (sortEntries (normalEntries raw.parts)) = _
  cases hread : Decoder.readEntries fields blank (sortEntries (normalEntries raw.parts)) with
  | error e =>
    rw [hread] at hsame
    cases hsame
  | ok read =>
    rw [hread] at hsame
    cases hsame
    rfl

end Parts

/-! ### Reading back -/

section ReadBack

variable {raw : RawDocument}

lemma ofText_of_depth_le (hcanonical : raw.IsCanonical) (hfree : raw.IsFloatFree)
    (hdepth : raw.depth ≤ Json.depthLimit) : ofText raw.text = .ok raw.withoutNulls := by
  have htree : parseTree raw.text = .ok (.object raw.parts) :=
    parseTree_text (isFloatFree_parts hfree) hdepth
  have hparse : parse raw.text = .ok (Json.object raw.parts).normal := by
    rw [parse, htree]
    rfl
  have hkeys : ∀ tree, parseTree raw.text = .ok tree → tree.RepeatsNoKey := by
    intro tree h
    cases htree.symm.trans h
    exact repeatsNoKey_parts hcanonical
  rw [ofText, mapError_eq_ok, run_eq_ok_iff agree_decoder hparse hkeys]
  exact decoder_parts hcanonical

/-- Inside the object of a document, rules are read if they do not nest too deep, and refused if
they do. -/
lemma rules_takes_or_refuses (depth : Nat) (key : String)
    {put : Option Json → RawDocument → RawDocument} {rules : Option Json}
    (hfind : (fields : List (Field TextDecoder RawDocument)).find? (·.name == key) =
      some (.of key (TextDecoder.optional readValue) put))
    (hcanonical : ∀ j ∈ rules, j.IsCanonical) (hfree : (Json.ofOption id rules).IsFloatFree)
    (hkeys : (Json.ofOption id rules).RepeatsNoKey) :
    (FieldTakes fields depth (key, .ofOption id rules) ∨
        FieldRefuses fields depth (key, .ofOption id rules)) ∧
      (depth < (Json.ofOption id rules).depth →
        FieldRefuses fields depth (key, .ofOption id rules)) := by
  have hrefuses (hlt : depth < (Json.ofOption id rules).depth) :
      FieldRefuses fields depth (key, .ofOption id rules) :=
    fieldRefuses_of hfind (refuses_optional (Nat.zero_lt_of_lt hlt) (refuses_readValue hfree hlt))
  refine ⟨?_, hrefuses⟩
  rcases Nat.lt_or_ge depth (Json.ofOption id rules).depth with hlt | hle
  · exact .inr (hrefuses hlt)
  · exact .inl (fieldTakes_of hfind (agree_optional agree_anyValue)
      (takenBack_of_isFloatFree hfree hle) hkeys (decoder_rules hcanonical))

/-- Only the rules of a document can be refused, and they are if the document is too deep. -/
lemma refuses_parts (depth : Nat) (hcanonical : raw.IsCanonical) (hfree : raw.IsFloatFree)
    (hdepth : depth + 2 < raw.depth) :
    Refuses ((decoder : TextDecoder RawDocument) (depth + 2)) (Json.object raw.parts).chars := by
  have hparts := forall_parts hcanonical hfree
  simp only [parts, List.forall_mem_cons] at hparts
  obtain ⟨-, hserviceParts, hroutingParts, hrateLimitParts, -⟩ := hparts
  have htype : FieldTakes fields (depth + 1) ("type", .string raw.documentType.name) :=
    fieldTakes_of rfl (agree_enumeration _) (takenBack_of_isFloatFree (.string _) (Nat.zero_le _))
      (.string _) (decoder_type _)
  have hservice : FieldTakes fields (depth + 1)
      ("service", .ofOption (fun r => .object r.parts) raw.service) := by
    have hle : (Json.ofOption (fun r => .object (ServiceReference.parts r)) raw.service).depth ≤
        depth + 1 := Nat.le_trans (depth_service_le _) (Nat.le_add_left 1 depth)
    exact fieldTakes_of rfl (agree_optional ServiceReference.agree_decoder)
      (takenBack_of_isFloatFree hserviceParts.1 hle) hserviceParts.2 (decoder_service _)
  have hrouting := rules_takes_or_refuses (depth + 1) "routing" rfl hcanonical.routing
    hroutingParts.1 hroutingParts.2
  have hrateLimit := rules_takes_or_refuses (depth + 1) "rateLimit" rfl hcanonical.rateLimit
    hrateLimitParts.1 hrateLimitParts.2
  refine refuses_record (by exact (by decide : ["type", "service", "routing", "rateLimit"].Nodup))
    ?_ ?_ "RawRuleDocument" blank
  · simp only [parts, List.forall_mem_cons]
    exact ⟨.inl htype, .inl hservice, hrouting.1, hrateLimit.1, List.forall_mem_nil _⟩
  · rw [← Nat.not_le, depth_le (Nat.le_add_left 1 depth), not_and_or, Nat.not_le, Nat.not_le]
      at hdepth
    rcases hdepth with hdeep | hdeep
    · exact ⟨_, by simp [parts], hrouting.2 hdeep⟩
    · exact ⟨_, by simp [parts], hrateLimit.2 hdeep⟩

lemma ofText_of_depth_lt (hcanonical : raw.IsCanonical) (hfree : raw.IsFloatFree)
    (hdepth : Json.depthLimit < raw.depth) :
    ∃ place, ofText raw.text = .error (.malformedDocument (.text ⟨.tooDeep, place⟩)) := by
  have hrest : (Cursor.ofString raw.text).rest = (Json.object raw.parts).chars ++ [] := by
    rw [text, rest_ofString_text, List.append_nil]
  obtain ⟨place, hread⟩ := refuses_parts 125 hcanonical hfree hdepth _ _ hrest
  refine ⟨place, ?_⟩
  rw [ofText, TextDecoder.run]
  simp only [Json.depthLimit, bind, Except.bind, hread]
  rfl

end ReadBack

/-- A document is read back from its text without the rules that are null, and its text is refused
if the rules nest too deep. -/
theorem ofText_text (raw : RawDocument) (hcanonical : raw.IsCanonical)
    (hfree : raw.IsFloatFree) :
    (raw.depth ≤ Json.depthLimit → ofText raw.text = .ok raw.withoutNulls) ∧
      (Json.depthLimit < raw.depth →
        ∃ place, ofText raw.text = .error (.malformedDocument (.text ⟨.tooDeep, place⟩))) :=
  ⟨ofText_of_depth_le hcanonical hfree, ofText_of_depth_lt hcanonical hfree⟩

def leastInteger : WireInt := ⟨-0x8000000000000000, by decide, by decide⟩

def greatestInteger : WireInt := ⟨0xFFFFFFFFFFFFFFFF, by decide, by decide⟩

/-- Its strings need escapes of every kind, and its integers are the least and the greatest one. -/
def escaped : RawDocument :=
  ⟨.unknown, some ⟨none, some "\"\\/"⟩,
    some (.object [("\x00\n\x1f", .integer leastInteger),
      ("é𝄞", .array [.integer greatestInteger, .object [], .string "\t\x7f"])]), some .null⟩

lemma isCanonical_escaped : escaped.IsCanonical where
  routing := by
    rintro j ⟨⟩
    refine .object (by decide) ?_
    simp only [List.forall_mem_cons]
    refine ⟨.integer _, .array ?_, List.forall_mem_nil _⟩
    simp only [List.forall_mem_cons]
    exact ⟨.integer _, .object .nil (List.forall_mem_nil _), .string _, List.forall_mem_nil _⟩
  rateLimit := by
    rintro j ⟨⟩
    exact .null

lemma isFloatFree_escaped : escaped.IsFloatFree where
  routing := by
    rintro j ⟨⟩
    refine .object ?_
    simp only [List.forall_mem_cons]
    refine ⟨.integer _, .array ?_, List.forall_mem_nil _⟩
    simp only [List.forall_mem_cons]
    exact ⟨.integer _, .object (List.forall_mem_nil _), .string _, List.forall_mem_nil _⟩
  rateLimit := by
    rintro j ⟨⟩
    exact .null

lemma isFloatFree_nestedRouting (n : Nat) : (nestedRouting n).IsFloatFree where
  routing := by
    rintro j ⟨⟩
    exact Json.isFloatFree_wrapped .null n
  rateLimit := by
    rintro j ⟨⟩
    exact .null

set_option maxRecDepth 4000 in
example : escaped.text =
    "\x7b\"type\":\"UNKNOWN\",\"service\":\x7b\"namespace\":null,\"name\":\"\\\"\\\\/\"\x7d," ++
      "\"routing\":\x7b\"\\u0000\\n\\u001f\":-9223372036854775808," ++
      "\"é𝄞\":[18446744073709551615,\x7b\x7d,\"\\t\x7f\"]\x7d,\"rateLimit\":null\x7d" := by
  simp only [String.reduceAppend]
  cbv

/-- Escapes of all kinds are read back, and 126 arrays in the object of a document. One more array
is too many. -/
theorem ofText_escaped :
    ofText escaped.text = .ok escaped.withoutNulls ∧
      escaped.withoutNulls = { escaped with rateLimit := none } ∧
      ofText (nestedRouting 126).text = .ok (nestedRouting 126).withoutNulls ∧
      ∃ place, ofText (nestedRouting 127).text =
        .error (.malformedDocument (.text ⟨.tooDeep, place⟩)) := by
  have reads (n : Nat) :=
    ofText_text (nestedRouting n) (isCanonical_nestedRouting n) (isFloatFree_nestedRouting n)
  have fits (n : Nat) : (nestedRouting n).depth ≤ Json.depthLimit ↔ n ≤ 126 :=
    depth_nestedRouting (by omega)
  have htoo : Json.depthLimit < (nestedRouting 127).depth := by
    rw [← Nat.not_le, fits]
    decide
  exact ⟨(ofText_text escaped isCanonical_escaped isFloatFree_escaped).1 (by decide), rfl,
    (reads 126).1 ((fits 126).mpr (Nat.le_refl 126)), (reads 127).2 htoo⟩

end RawDocument

end RuleIntake
