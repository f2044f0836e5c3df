import Mathlib.Tactic.Common
import RuleIntake.Proofs.MessagePackRoundTrip
import RuleIntake.Rule.RawDocument

/-!
# Snapshots are read back

The snapshot of a raw document is read as the document, except that rules which are null count as
missing. Rules nested deeper than the decoder allows make the snapshot unreadable.
-/

namespace RuleIntake

open Wire MessagePack

namespace MessagePack.Decoder

variable {α β : Type}

/-! ### Reading what a format reads -/

lemma read_map (f : α → β) (d : Decoder α) (room : Nat) (bytes : List UInt8) :
    (f <$> d : Decoder β).read room bytes =
      (d.read room bytes).map fun (a, rest) => (f a, rest) := rfl

/-- What does not start like nil is read as it would be read alone. -/
lemma optional_of_head {d : Decoder α} {room : Nat} {bytes rest : List UInt8} {head : Head}
    (h : readHead bytes = .ok (head, rest)) (hnil : head ≠ .nil) :
    (optional d).read room bytes =
      (d.read room bytes).map fun (a, rest) => (some a, rest) := by
  obtain _ | ⟨b, more⟩ := bytes
  · simp [readHead, readMarker] at h
  simp only [optional, readMarker]
  split
  · next heq => cases heq
  · next hm =>
    simp only [Except.ok.injEq, Prod.mk.injEq] at hm
    rw [readHead, readMarker] at h
    dsimp only at h
    rw [hm.1, readHeadOf] at h
    cases h
    exact absurd rfl hnil
  · rfl

/-! ### Names -/

lemma readIdentifier_encodeString {s : String} (h : LengthFits s) (expected : Expectation)
    (room : Nat) (rest : List UInt8) :
    readIdentifier expected room (encodeString s ++ rest) = .ok (.name s, rest) := by
  rw [readIdentifier, readHead_encodeString h]
  dsimp only
  rw [readName, readSlice, split_append]
  dsimp only
  rw [Utf8.decode_encode]

lemma enumeration_encodeString {v : Variants α} {name : String} {a : α} (h : LengthFits name)
    (hv : v.ofName? name = some a) (room : Nat) (rest : List UInt8) :
    (enumeration v).read room (encodeString name ++ rest) = .ok (a, rest) := by
  simp only [enumeration, readHead_encodeString h, readVariant, readIdentifier_encodeString h,
    variant, hv]
  rfl

lemma readFields_entry {fields : List (Field Decoder α)} {key : String} {d : Decoder β}
    {put : β → α → α} (hkey : LengthFits key)
    (hfind : fields.find? (·.name == key) = some (.of key d put)) {seen : List String}
    (hseen : seen.contains key = false) (room : Nat) (record : α) (n : Nat) (value : Json)
    (more : List (String × Json)) (rest : List UInt8) :
    readFields fields room seen record (n + 1) (encodeEntries ((key, value) :: more) ++ rest) =
      match d.read room (encodeValue value ++ (encodeEntries more ++ rest)) with
      | .error e => .error e
      | .ok (b, after) => readFields fields room (key :: seen) (put b record) n after := by
  rw [encodeEntries, List.append_assoc, List.append_assoc, readFields,
    readIdentifier_encodeString hkey]
  dsimp only
  rw [field?, hfind]
  simp only [Field.of, hseen, Bool.false_eq_true, if_false, read_map]
  cases d.read room (encodeValue value ++ (encodeEntries more ++ rest)) <;> rfl

lemma record_encoded (name : String) (fields : List (Field Decoder α)) (initial : α) (room : Nat)
    {entries : List (String × Json)} (h : entries.length < 2 ^ 32) (rest : List UInt8) :
    (record name fields initial).read (room + 1) (encodeValue (.object entries) ++ rest) =
      readFields fields room [] initial entries.length (encodeEntries entries ++ rest) := by
  simp only [record, encodeValue, List.append_assoc, readHead_mapHead h]
  rw [if_neg (Nat.succ_ne_zero _), Nat.add_sub_cancel]

/-! ### Options -/

lemma readHead_encodeValue {j : Json} (h : j.LengthsFit) (hj : j ≠ .null) (rest : List UInt8) :
    ∃ head after, readHead (encodeValue j ++ rest) = .ok (head, after) ∧ head ≠ .nil := by
  cases h with
  | null => exact absurd rfl hj
  | bool b => cases b <;> exact ⟨_, _, rfl, by simp⟩
  | integer n =>
    refine ⟨_, _, readHead_encodeInteger n rest, ?_⟩
    unfold integerHead
    split_ifs <;> simp
  | float x => exact ⟨_, _, readHead_encodeFloat x rest, by simp⟩
  | string hs => exact ⟨_, _, readHead_encodeString hs rest, by simp⟩
  | array hlength _ =>
    rw [encodeValue, List.append_assoc]
    exact ⟨_, _, readHead_arrayHead hlength _, by simp⟩
  | object hlength _ _ =>
    rw [encodeValue, List.append_assoc]
    exact ⟨_, _, readHead_mapHead hlength _, by simp⟩

lemma optional_encodeValue {d : Decoder α} {j : Json} (h : j.LengthsFit) (hj : j ≠ .null)
    (room : Nat) (rest : List UInt8) :
    (optional d).read room (encodeValue j ++ rest) =
      (d.read room (encodeValue j ++ rest)).map fun (a, rest) => (some a, rest) := by
  obtain ⟨head, after, hhead, hnil⟩ := readHead_encodeValue h hj rest
  exact optional_of_head hhead hnil

lemma optionalString_encoded {s : Option String} (h : ∀ t ∈ s, LengthFits t) (room : Nat)
    (rest : List UInt8) :
    (WireFormat.optional WireFormat.string : Decoder (Option String)).read room
      (encodeValue (.ofOption .string s) ++ rest) = .ok (s, rest) := by
  change (optional string).read room _ = _
  obtain _ | t := s
  · rfl
  rw [Json.ofOption, optional_encodeValue (.string (h t rfl)) (by simp)]
  change Except.map _ (readString room (encodeString t ++ rest)) = _
  rw [readString_encodeString (h t rfl)]
  rfl

end MessagePack.Decoder

/-! ### Documents -/

def Json.nonNull? : Json → Option Json
  | null => none
  | j => some j

namespace MessagePack.Decoder

/-- Rules that may be missing are read back if there is room for them, null as missing. -/
lemma optionalValue_encoded {rules : Option Json} (hc : ∀ j ∈ rules, j.IsCanonical)
    (hl : ∀ j ∈ rules, j.LengthsFit) (room : Nat) (rest : List UInt8) :
    (WireFormat.optional WireFormat.anyValue : Decoder (Option Json)).read room
      (encodeValue (.ofOption id rules) ++ rest) =
        if (Json.ofOption id rules).depth ≤ room then .ok (rules.bind Json.nonNull?, rest)
        else .error .tooDeep := by
  change (optional anyValue).read room _ = _
  obtain _ | j := rules
  · rfl
  by_cases hj : j = .null
  · subst hj
    rfl
  have hsome : j.nonNull? = some j := by
    cases j <;> first | rfl | exact absurd rfl hj
  rw [Json.ofOption, id, optional_encodeValue (hl j rfl) hj, Option.bind_some, hsome]
  change Except.map _ (readValue room _) = _
  rw [readValue, readsBack_of_lengthsFit j (hl j rfl)]
  split_ifs
  · simp only [Except.map, Json.normal_of_isCanonical j (hc j rfl)]
  · rfl

end MessagePack.Decoder

namespace ServiceReference

structure LengthsFit (r : ServiceReference) : Prop where
  namespaceName : ∀ s ∈ r.namespaceName, LengthFits s
  name : ∀ s ∈ r.name, LengthFits s

lemma read_encoded {r : ServiceReference} (h : r.LengthsFit) (room : Nat) (rest : List UInt8) :
    (decoder : MessagePack.Decoder ServiceReference).read (room + 1)
      (encodeValue (.object r.parts) ++ rest) = .ok (r, rest) := by
  change (Decoder.record "WireService" fields ⟨none, none⟩).read _ _ = _
  rw [Decoder.record_encoded _ _ _ _ (by simp [parts])]
  have hns := Decoder.optionalString_encoded h.namespaceName room
  have hname := Decoder.optionalString_encoded h.name room
  rw [parts, List.length_cons, Decoder.readFields_entry (by decide) rfl rfl, hns]
  dsimp only
  rw [List.length_cons, Decoder.readFields_entry (by decide) rfl rfl, hname]
  rfl

end ServiceReference

namespace RawDocument

structure LengthsFit (raw : RawDocument) : Prop where
  service : ∀ r ∈ raw.service, r.LengthsFit
  routing : ∀ j ∈ raw.routing, j.LengthsFit
  rateLimit : ∀ j ∈ raw.rateLimit, j.LengthsFit

structure IsCanonical (raw : RawDocument) : Prop where
  routing : ∀ j ∈ raw.routing, j.IsCanonical
  rateLimit : ∀ j ∈ raw.rateLimit, j.IsCanonical

/-- How many arrays and objects are open at once at the deepest place of a document, its own object
being one of them. -/
def depth (raw : RawDocument) : Nat := (Json.object raw.parts).depth

def withoutNulls (raw : RawDocument) : RawDocument :=
  { raw with
    routing := raw.routing.bind Json.nonNull?
    rateLimit := raw.rateLimit.bind Json.nonNull? }

lemma service_encoded {service : Option ServiceReference} (h : ∀ r ∈ service, r.LengthsFit)
    (room : Nat) (rest : List UInt8) :
    (WireFormat.optional ServiceReference.decoder :
      MessagePack.Decoder (Option ServiceReference)).read (room + 1)
        (encodeValue (.ofOption (fun r => .object r.parts) service) ++ rest) =
      .ok (service, rest) := by
  change (Decoder.optional ServiceReference.decoder).read _ _ = _
  obtain _ | r := service
  · rfl
  have hhead (bytes : List UInt8) : readHead (encodeValue (.object r.parts) ++ bytes) =
      .ok (.map r.parts.length, encodeEntries r.parts ++ bytes) := by
    rw [encodeValue, List.append_assoc, readHead_mapHead (by simp [ServiceReference.parts])]
  rw [Json.ofOption, Decoder.optional_of_head (hhead rest) (by simp),
    ServiceReference.read_encoded (h r rfl)]
  rfl

lemma type_encoded (t : DocumentType) (room : Nat) (rest : List UInt8) :
    (WireFormat.enumeration DocumentType.variants : MessagePack.Decoder DocumentType).read room
      (encodeValue (.string t.name) ++ rest) = .ok (t, rest) := by
  have hname : LengthFits t.name := by cases t <;> decide
  have ht : DocumentType.variants.ofName? t.name = some t := by cases t <;> rfl
  exact Decoder.enumeration_encodeString hname ht room rest

lemma depth_service_le (service : Option ServiceReference) :
    (Json.ofOption (fun r => .object (ServiceReference.parts r)) service).depth ≤ 1 := by
  obtain _ | ⟨ns, name⟩ := service
  · exact Nat.zero_le _
  · cases ns <;> cases name <;> exact Nat.le_refl _

/-- Only the rules of a document can make it deep. -/
lemma depth_le {raw : RawDocument} {n : Nat} (hn : 1 ≤ n) :
    raw.depth ≤ n + 1 ↔
      (Json.ofOption id raw.routing).depth ≤ n ∧ (Json.ofOption id raw.rateLimit).depth ≤ n := by
  have hs := depth_service_le raw.service
  simp only [depth, parts, Json.depth, Json.entriesDepth_le, Nat.succ_le_succ_iff,
    List.forall_mem_cons]
  constructor
  · rintro ⟨-, -, hr, hl, -⟩
    exact ⟨hr, hl⟩
  · rintro ⟨hr, hl⟩
    exact ⟨Nat.zero_le _, Nat.le_trans hs hn, hr, hl, by simp⟩

lemma read_encoded {raw : RawDocument} (hl : raw.LengthsFit) (hc : raw.IsCanonical) (room : Nat)
    (rest : List UInt8) :
    (decoder : MessagePack.Decoder RawDocument).read (room + 2) (raw.snapshot ++ rest) =
      if raw.depth ≤ room + 2 then .ok (raw.withoutNulls, rest) else .error .tooDeep := by
  change (Decoder.record "RawRuleDocument" fields blank).read _ _ = _
  have hservice := service_encoded hl.service room
  have hrouting := Decoder.optionalValue_encoded hc.routing hl.routing (room + 1)
  have hrate := Decoder.optionalValue_encoded hc.rateLimit hl.rateLimit (room + 1)
  rw [snapshot, Decoder.record_encoded _ _ _ _ (by simp [parts])]
  rw [parts, List.length_cons, Decoder.readFields_entry (by decide) rfl rfl, type_encoded]
  dsimp only
  rw [List.length_cons, Decoder.readFields_entry (by decide) rfl rfl, hservice]
  dsimp only
  rw [List.length_cons, Decoder.readFields_entry (by decide) rfl rfl, hrouting]
  simp only [depth_le (Nat.le_add_left 1 room)]
  by_cases h1 : (Json.ofOption id raw.routing).depth ≤ room + 1
  · rw [if_pos h1]
    dsimp only
    rw [List.length_cons, Decoder.readFields_entry (by decide) rfl rfl, hrate]
    by_cases h2 : (Json.ofOption id raw.rateLimit).depth ≤ room + 1
    · rw [if_pos h2, if_pos ⟨h1, h2⟩]
      rfl
    · rw [if_neg h2, if_neg]
      intro hboth
      exact h2 hboth.2
  · rw [if_neg h1, if_neg]
    intro hboth
    exact h1 hboth.1

lemma ofSnapshot_encoded {raw : RawDocument} (hl : raw.LengthsFit) (hc : raw.IsCanonical)
    (rest : List UInt8) :
    ofSnapshot (raw.snapshot ++ rest) =
      if raw.depth ≤ depthLimit then .ok raw.withoutNulls
      else .error (.snapshot (.decoding .tooDeep)) := by
  have h := read_encoded hl hc (depthLimit - 2) rest
  rw [show depthLimit - 2 + 2 = depthLimit from rfl] at h
  rw [ofSnapshot, Decoder.run, h]
  split_ifs <;> rfl

lemma ofOption_bind_nonNull? (rules : Option Json) :
    Json.ofOption id (rules.bind Json.nonNull?) = Json.ofOption id rules := by
  obtain _ | j := rules
  · rfl
  · cases j <;> rfl

lemma bind_nonNull?_eq_self (rules : Option Json) :
    rules.bind Json.nonNull? = rules ↔ rules ≠ some .null := by
  obtain _ | j := rules
  · simp
  · cases j <;> simp [Json.nonNull?]

lemma snapshot_withoutNulls (raw : RawDocument) : raw.withoutNulls.snapshot = raw.snapshot := by
  have hparts : raw.withoutNulls.parts = raw.parts := by
    simp only [parts, withoutNulls, ofOption_bind_nonNull?]
  rw [snapshot, snapshot, hparts]

lemma withoutNulls_eq_self (raw : RawDocument) :
    raw.withoutNulls = raw ↔ raw.routing ≠ some .null ∧ raw.rateLimit ≠ some .null := by
  obtain ⟨documentType, service, routing, rateLimit⟩ := raw
  simp only [withoutNulls, mk.injEq, true_and, bind_nonNull?_eq_self]

/-- A snapshot is read as its document without the rules that are null, whatever comes behind it,
and as no document at all if the rules are nested too deep. The rules that are lost make no
difference to the snapshot. -/
theorem ofSnapshot_snapshot_append (raw : RawDocument) (hl : raw.LengthsFit)
    (hc : raw.IsCanonical) (rest : List UInt8) :
    (raw.depth ≤ depthLimit → ofSnapshot (raw.snapshot ++ rest) = .ok raw.withoutNulls) ∧
      (depthLimit < raw.depth →
        ofSnapshot (raw.snapshot ++ rest) = .error (.snapshot (.decoding .tooDeep))) ∧
      raw.withoutNulls.snapshot = raw.snapshot ∧
      (raw.withoutNulls = raw ↔ raw.routing ≠ some .null ∧ raw.rateLimit ≠ some .null) := by
  refine ⟨?_, ?_, snapshot_withoutNulls raw, withoutNulls_eq_self raw⟩
  · intro hdepth
    rw [ofSnapshot_encoded hl hc, if_pos hdepth]
  · intro hdepth
    rw [ofSnapshot_encoded hl hc, if_neg (Nat.not_le.mpr hdepth)]

def nestedRouting (n : Nat) : RawDocument :=
  ⟨.routing, some ⟨some "default", none⟩, some (Json.wrapped .null n), some .null⟩

lemma lengthsFit_nestedRouting (n : Nat) : (nestedRouting n).LengthsFit where
  service := by
    rintro r ⟨⟩
    exact ⟨by rintro s ⟨⟩; decide, by rintro s ⟨⟩⟩
  routing := by
    rintro j ⟨⟩
    exact Json.lengthsFit_wrapped .null n
  rateLimit := by
    rintro j ⟨⟩
    exact .null

lemma isCanonical_nestedRouting (n : Nat) : (nestedRouting n).IsCanonical where
  routing := by
    rintro j ⟨⟩
    exact Json.isCanonical_wrapped .null n
  rateLimit := by
    rintro j ⟨⟩
    exact .null

lemma depth_nestedRouting {m n : Nat} (h : 1 ≤ m) : (nestedRouting n).depth ≤ m + 1 ↔ n ≤ m := by
  have hrouting : (Json.wrapped .null n).depth = n :=
    (Json.depth_wrapped .null n).trans (Nat.zero_add n)
  rw [depth_le h]
  change (Json.wrapped .null n).depth ≤ m ∧ 0 ≤ m ↔ n ≤ m
  rw [hrouting]
  exact and_iff_left (Nat.zero_le m)

/-- With the object of the document, 1022 arrays are just few enough. -/
theorem ofSnapshot_nestedRouting :
    ofSnapshot ((nestedRouting 1022).snapshot ++ [0xC1]) = .ok (nestedRouting 1022).withoutNulls ∧
      ofSnapshot ((nestedRouting 1023).snapshot ++ [0xC1]) =
        .error (.snapshot (.decoding .tooDeep)) := by
  have reads (n : Nat) := ofSnapshot_snapshot_append (nestedRouting n)
    (lengthsFit_nestedRouting n) (isCanonical_nestedRouting n) [0xC1]
  have fits (n : Nat) : (nestedRouting n).depth ≤ depthLimit ↔ n ≤ 1022 :=
    depth_nestedRouting (by omega)
  refine ⟨(reads 1022).1 ((fits 1022).mpr (Nat.le_refl _)), (reads 1023).2.1 ?_⟩
  apply Nat.lt_of_not_le
  intro h
  have htoo : 1023 ≤ 1022 := (fits 1023).mp h
  omega

end RawDocument

end RuleIntake
