import Mathlib
import RuleIntake.Proofs.ByteReading
import RuleIntake.Proofs.SnapshotIdentity

/-!
# Snapshots are stored again

Whatever bytes a document is read from, they need not be the ones that would be written for it. The
document can still be written, and the new bytes are read, for no document is read that nests too
deep or whose lengths cannot be written. So bytes are repacked once and for all.
-/

namespace RuleIntake

open MessagePack

namespace MessagePack.Decoder

variable {α β : Type} {P : α → Prop} {fields : List (Wire.Field Decoder α)} {room : Nat}

/-! ### What is read keeps a property -/

lemma exists_of_optional {d : Decoder β} {bytes after : List UInt8} {read : Option β}
    (h : (Wire.WireFormat.optional d : Decoder (Option β)).read room bytes = .ok (read, after)) :
    ∀ b ∈ read, d.read room bytes = .ok (b, after) := by
  change (optional d).read room bytes = _ at h
  simp only [optional] at h
  split at h
  · cases h
  · cases h
    simp
  · obtain ⟨⟨b, rest⟩, hb, hend⟩ := exists_of_map_eq_ok h
    cases hend
    rintro _ ⟨⟩
    exact hb

/-- A field that can be spelled by no single byte. -/
def RefusesBytes (field : Wire.Field Decoder α) : Prop :=
  ∀ b, ∃ m, field.read.ofByte b = .error m

lemma readElements_keeps {taken : Nat} {record a : α} {n : Nat} {bytes after : List UInt8}
    (hfields : ∀ field ∈ fields, Keeps P room field) (hrecord : P record)
    (h : readElements room taken record fields n bytes = .ok (a, after)) : P a := by
  fun_induction readElements room taken record fields n bytes with
  | case1 =>
    cases h
    exact hrecord
  | case2 => cases h
  | case3 => cases h
  | case4 taken record field fields n bytes put rest hput ih =>
    obtain ⟨hfield, hfields⟩ := List.forall_mem_cons.mp hfields
    exact ih hfields (hfield _ _ _ hput _ hrecord) h

lemma readByteFields_keeps {record a : α} {bytes : List UInt8}
    (hfields : ∀ field ∈ fields, RefusesBytes field) (hrecord : P record)
    (h : readByteFields fields record bytes = .ok a) : P a := by
  obtain _ | ⟨field, fields⟩ := fields
  · cases h
    exact hrecord
  obtain _ | ⟨b, rest⟩ := bytes
  · cases h
    exact hrecord
  obtain ⟨m, hm⟩ := hfields field List.mem_cons_self b
  rw [readByteFields, hm] at h
  cases h

/-- A record that is read has every property that its initial value has and that its fields keep
one level further in, whether it is spelled as a map, as an array or as a byte string. -/
lemma record_keeps {name : String} {initial a : α} {bytes after : List UInt8}
    (hfields : ∀ field ∈ fields, Keeps P room field)
    (hbytes : ∀ field ∈ fields, RefusesBytes field) (hinitial : P initial)
    (h : (record name fields initial).read (room + 1) bytes = .ok (a, after)) : P a := by
  simp only [record, Nat.succ_ne_zero, if_false, Nat.add_sub_cancel] at h
  split at h
  · cases h
  · exact readFields_keeps (fun field hfield _ => hfields field hfield) hinitial h
  · exact readElements_keeps hfields hinitial h
  · split at h
    · cases h
    split at h
    · cases h
    next filled hfilled =>
    cases h
    exact readByteFields_keeps hbytes hinitial hfilled
  · cases h

end MessagePack.Decoder

/-! ### What documents are read -/

lemma ServiceReference.lengthsFit_of_read {room : Nat} {bytes after : List UInt8}
    {r : ServiceReference}
    (h : (decoder : Decoder ServiceReference).read (room + 1) bytes = .ok (r, after)) :
    r.LengthsFit := by
  change (Decoder.record "WireService" fields ⟨none, none⟩).read _ _ = _ at h
  refine Decoder.record_keeps ?_ ?_ ⟨by simp, by simp⟩ h
  · simp only [fields, List.forall_mem_cons]
    refine ⟨?_, ?_, by simp⟩
    · apply Decoder.keeps_of_read
      intro bytes name after hread r hr
      exact ⟨fun s hs => lengthFits_of_readString (Decoder.exists_of_optional hread s hs), hr.name⟩
    · apply Decoder.keeps_of_read
      intro bytes name after hread r hr
      exact ⟨hr.namespaceName,
        fun s hs => lengthFits_of_readString (Decoder.exists_of_optional hread s hs)⟩
  · simp only [fields, List.forall_mem_cons]
    exact ⟨fun _ => ⟨_, rfl⟩, fun _ => ⟨_, rfl⟩, by simp⟩

namespace RawDocument

/-- A document that bytes can hold where so many levels may be opened for its parts. -/
structure IsUnpackedWithin (n : Nat) (raw : RawDocument) : Prop where
  service : ∀ r ∈ raw.service, r.LengthsFit
  routing : ∀ j ∈ raw.routing, j.IsCanonical ∧ j.IsUnpackedWithin n
  rateLimit : ∀ j ∈ raw.rateLimit, j.IsCanonical ∧ j.IsUnpackedWithin n

namespace IsUnpackedWithin

variable {n : Nat} {raw : RawDocument}

lemma lengthsFit (h : raw.IsUnpackedWithin n) : raw.LengthsFit :=
  ⟨h.service, fun j hj => (h.routing j hj).2.lengths, fun j hj => (h.rateLimit j hj).2.lengths⟩

lemma isCanonical (h : raw.IsUnpackedWithin n) : raw.IsCanonical :=
  ⟨fun j hj => (h.routing j hj).1, fun j hj => (h.rateLimit j hj).1⟩

lemma depth_ofOption {rules : Option Json}
    (h : ∀ j ∈ rules, j.IsCanonical ∧ j.IsUnpackedWithin n) :
    (Json.ofOption id rules).depth ≤ n := by
  obtain _ | j := rules
  · exact Nat.zero_le n
  · exact (h j rfl).2.depth

lemma depth_le (h : raw.IsUnpackedWithin n) (hn : 1 ≤ n) : raw.depth ≤ n + 1 := by
  rw [RawDocument.depth_le hn]
  exact ⟨depth_ofOption h.routing, depth_ofOption h.rateLimit⟩

end IsUnpackedWithin

lemma keeps_isUnpackedWithin (n : Nat) :
    ∀ field ∈ (fields : List (Wire.Field Decoder RawDocument)),
      Decoder.Keeps (IsUnpackedWithin (n + 1)) (n + 1) field := by
  simp only [fields, List.forall_mem_cons]
  refine ⟨?_, ?_, ?_, ?_, by simp⟩
  · apply Decoder.keeps_of
    intro t raw hraw
    exact ⟨hraw.service, hraw.routing, hraw.rateLimit⟩
  · apply Decoder.keeps_of_read
    intro bytes service after hread raw hraw
    refine ⟨?_, hraw.routing, hraw.rateLimit⟩
    intro r hr
    exact ServiceReference.lengthsFit_of_read (Decoder.exists_of_optional hread r hr)
  · apply Decoder.keeps_of_read
    intro bytes routing after hread raw hraw
    refine ⟨hraw.service, ?_, hraw.rateLimit⟩
    intro j hj
    exact isUnpackedWithin_of_readValue (Decoder.exists_of_optional hread j hj)
  · apply Decoder.keeps_of_read
    intro bytes rateLimit after hread raw hraw
    refine ⟨hraw.service, hraw.routing, ?_⟩
    intro j hj
    exact isUnpackedWithin_of_readValue (Decoder.exists_of_optional hread j hj)

/-- How deep the rules of a document in a snapshot may nest. -/
def snapshotDepthLimit : Nat := depthLimit - 1

lemma isUnpackedWithin_of_ofSnapshot {bytes : List UInt8} {raw : RawDocument}
    (h : ofSnapshot bytes = .ok raw) : raw.IsUnpackedWithin snapshotDepthLimit := by
  rw [ofSnapshot, Decoder.run] at h
  cases hread : (decoder : Decoder RawDocument).read depthLimit bytes with
  | error e =>
    rw [hread] at h
    cases h
  | ok result =>
    obtain ⟨read, after⟩ := result
    rw [hread] at h
    cases h
    change (Decoder.record "RawRuleDocument" fields blank).read (snapshotDepthLimit + 1) _ = _
      at hread
    refine Decoder.record_keeps (keeps_isUnpackedWithin (snapshotDepthLimit - 1)) ?_ ?_ hread
    · simp only [fields, List.forall_mem_cons]
      exact ⟨fun _ => ⟨_, rfl⟩, fun _ => ⟨_, rfl⟩, fun _ => ⟨_, rfl⟩, fun _ => ⟨_, rfl⟩, by simp⟩
    · exact ⟨by simp [blank], by simp [blank], by simp [blank]⟩

/-! ### Packing anew -/

/-- The snapshot of the document that bytes hold. -/
def repack (bytes : List UInt8) : Except RuleError (List UInt8) := (ofSnapshot bytes).map snapshot

lemma ofSnapshot_snapshot_of_ofSnapshot {bytes : List UInt8} {raw : RawDocument}
    (h : ofSnapshot bytes = .ok raw) :
    raw.depth ≤ depthLimit ∧ ofSnapshot raw.snapshot = .ok raw.withoutNulls := by
  have hread := isUnpackedWithin_of_ofSnapshot h
  have hdepth : raw.depth ≤ depthLimit := hread.depth_le (by decide)
  have hagain := ofSnapshot_encoded hread.lengthsFit hread.isCanonical []
  rw [List.append_nil, if_pos hdepth] at hagain
  exact ⟨hdepth, hagain⟩

/-- A document that any bytes hold has a snapshot: its lengths can be written and it is not nested
too deep. The snapshot is read as the document without the rules that are null, and is the snapshot
of what is read. So packing anew what was packed anew changes nothing. -/
theorem repack_repack (bytes : List UInt8) :
    (∀ raw, ofSnapshot bytes = .ok raw →
      raw.LengthsFit ∧ raw.depth ≤ depthLimit ∧ ofSnapshot raw.snapshot = .ok raw.withoutNulls ∧
        raw.withoutNulls.snapshot = raw.snapshot) ∧
      ∀ packed, repack bytes = .ok packed → repack packed = .ok packed := by
  constructor
  · intro raw hread
    obtain ⟨hdepth, hagain⟩ := ofSnapshot_snapshot_of_ofSnapshot hread
    exact ⟨(isUnpackedWithin_of_ofSnapshot hread).lengthsFit, hdepth, hagain,
      snapshot_withoutNulls raw⟩
  · intro packed hpacked
    obtain ⟨raw, hread, rfl⟩ := exists_of_map_eq_ok hpacked
    rw [repack, (ofSnapshot_snapshot_of_ofSnapshot hread).2]
    exact congrArg Except.ok (snapshot_withoutNulls raw)

/-- An array with the name of no type, rules with one key twice, rules that are not a number, and a
byte left over. -/
def unusualBytes : List UInt8 :=
  [0x94, 0xA1, 0x58, 0xC0, 0x82, 0xA1, 0x61, 0x01, 0xA1, 0x61, 0x02, 0xCA, 0x7F, 0xC0, 0x00, 0x00,
    0xFF]

def unusual : RawDocument :=
  ⟨.unknown, none, some (.object [("a", .integer ⟨2, by decide, by decide⟩)]), some .null⟩

lemma ofSnapshot_unusualBytes : ofSnapshot unusualBytes = .ok unusual := by
  cbv

/-- Of the key that comes twice the last value is kept, and rules that are not a number are taken
for missing from then on. -/
theorem repack_unusualBytes :
    (unusual.LengthsFit ∧ unusual.depth ≤ depthLimit ∧
        ofSnapshot unusual.snapshot = .ok unusual.withoutNulls ∧
        unusual.withoutNulls.snapshot = unusual.snapshot) ∧
      unusual.withoutNulls.rateLimit = none ∧ repack unusual.snapshot = .ok unusual.snapshot :=
  have hrepack : repack unusualBytes = .ok unusual.snapshot :=
    congrArg (Except.map snapshot) ofSnapshot_unusualBytes
  ⟨(repack_repack unusualBytes).1 unusual ofSnapshot_unusualBytes, rfl,
    (repack_repack unusualBytes).2 _ hrepack⟩

end RawDocument

end RuleIntake
