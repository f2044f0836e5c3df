import Mathlib
import RuleIntake.Proofs.SnapshotRoundTrip

/-!
# What a snapshot is filed by

The type of a document and the service it is for come first in its snapshot. A field that was read
is not read again, so whatever the bytes behind them spell, a document that is read from the
snapshot is of the same type and for the same service.
-/

namespace RuleIntake

open MessagePack

namespace MessagePack.Decoder

variable {α : Type} {P : α → Prop} {fields : List (Wire.Field Decoder α)} {room : Nat}

/-- Whatever a field reads, putting it into a record with a property leaves the property. -/
def Keeps (P : α → Prop) (room : Nat) (field : Wire.Field Decoder α) : Prop :=
  ∀ bytes put after, field.read.read room bytes = .ok (put, after) → ∀ a, P a → P (put a)

lemma keeps_of_read {β : Type} {name : String} {d : Decoder β} {put : β → α → α}
    (h : ∀ bytes b after, d.read room bytes = .ok (b, after) → ∀ a, P a → P (put b a)) :
    Keeps P room (.of name d put) := by
  intro bytes filled after hread
  rw [Wire.Field.of, read_map] at hread
  cases hd : d.read room bytes with
  | error e =>
    rw [hd] at hread
    cases hread
  | ok read =>
    rw [hd] at hread
    cases hread
    exact h bytes read.1 _ hd

lemma keeps_of {β : Type} {name : String} {d : Decoder β} {put : β → α → α}
    (h : ∀ b a, P a → P (put b a)) : Keeps P room (.of name d put) :=
  keeps_of_read fun _ b _ _ => h b

lemma mem_of_field? {identifier : Identifier} {field : Wire.Field Decoder α}
    (h : field? fields identifier = some field) : field ∈ fields := by
  cases identifier with
  | name text => exact List.mem_of_find?_eq_some h
  | place index => exact List.mem_of_getElem? h
  | unreadable fault => cases h

/-- Fields that were seen are not read again, so a record keeps what the other fields keep. -/
lemma readFields_keeps {seen : List String} {record a : α} {n : Nat} {bytes after : List UInt8}
    (hfields : ∀ field ∈ fields, field.name ∉ seen → Keeps P room field) (hrecord : P record)
    (h : readFields fields room seen record n bytes = .ok (a, after)) : P a := by
  fun_induction readFields fields room seen record n bytes with
  | case1 =>
    cases h
    exact hrecord
  | case2 => cases h
  | case3 => cases h
  | case4 seen record n bytes identifier rest hidentifier hfield after hskip ih =>
    exact ih hfields hrecord h
  | case5 => cases h
  | case6 => cases h
  | case7 seen record n bytes identifier rest hidentifier field hfield hseen put after hput ih =>
    have hkeeps : Keeps P room field := by
      apply hfields field (mem_of_field? hfield)
      simpa using hseen
    refine ih ?_ (hkeeps _ _ _ hput _ hrecord) h
    intro other hother hnot
    exact hfields other hother fun hmem => hnot (List.mem_cons_of_mem _ hmem)

end MessagePack.Decoder

namespace RawDocument

/-- Whatever the service and the rules are read as, the type is the one that was written, and so is
the service if its names fit. -/
lemma identity_of_read {raw read : RawDocument} (room : Nat) {rest after : List UInt8}
    (h : (decoder : Decoder RawDocument).read (room + 2) (raw.snapshot ++ rest) =
      .ok (read, after)) :
    read.documentType = raw.documentType ∧
      ((∀ r ∈ raw.service, r.LengthsFit) → read.service = raw.service) := by
  change (Decoder.record "RawRuleDocument" fields blank).read _ _ = _ at h
  rw [snapshot, Decoder.record_encoded _ _ _ _ (by simp [parts]), parts, List.length_cons,
    Decoder.readFields_entry (by decide) rfl rfl, type_encoded] at h
  dsimp only at h
  constructor
  · refine Decoder.readFields_keeps (P := fun read => read.documentType = raw.documentType) ?_ rfl h
    simp only [fields, List.forall_mem_cons]
    refine ⟨?_, ?_, ?_, ?_, by simp⟩
    · intro hseen
      exact absurd List.mem_cons_self hseen
    all_goals
      intro _
      exact Decoder.keeps_of fun _ _ hread => hread
  · intro hfits
    rw [List.length_cons, Decoder.readFields_entry (by decide) rfl rfl,
      service_encoded hfits] at h
    dsimp only at h
    refine Decoder.readFields_keeps (P := fun read => read.service = raw.service) ?_ rfl h
    simp only [fields, List.forall_mem_cons]
    refine ⟨?_, ?_, ?_, ?_, by simp⟩
    · intro _
      exact Decoder.keeps_of fun _ _ hread => hread
    · intro hseen
      exact absurd List.mem_cons_self hseen
    all_goals
      intro _
      exact Decoder.keeps_of fun _ _ hread => hread

/-- A document that is read from a snapshot is of the type that was written, and for the service
that was written if its names fit. -/
theorem identity_of_ofSnapshot {raw read : RawDocument} (h : ofSnapshot raw.snapshot = .ok read) :
    read.documentType = raw.documentType ∧
      ((∀ r ∈ raw.service, r.LengthsFit) → read.service = raw.service) := by
  rw [ofSnapshot, Decoder.run] at h
  cases hread : (decoder : Decoder RawDocument).read depthLimit raw.snapshot with
  | error e =>
    rw [hread] at h
    cases h
  | ok result =>
    rw [hread] at h
    cases h
    rw [← List.append_nil raw.snapshot] at hread
    exact identity_of_read (depthLimit - 2) hread

end RawDocument

end RuleIntake
