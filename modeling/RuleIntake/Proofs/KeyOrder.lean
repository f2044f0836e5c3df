import Mathlib.Data.List.Pairwise
import Mathlib.Tactic.Common
import RuleIntake.Json.Decoder
import RuleIntake.Proofs.TextReading

/-!
# The order of keys

Where no key is repeated, bringing entries into key order rearranges them and drops none. A record
comes out the same then, whatever the order in which its entries are read, if it does not matter
which of two fields is put first.
-/

namespace RuleIntake.Json

open Wire

/-- No object in a value has two entries with one key. -/
inductive RepeatsNoKey : Json → Prop
  | null : RepeatsNoKey null
  | bool (b : Bool) : RepeatsNoKey (bool b)
  | integer (n : WireInt) : RepeatsNoKey (integer n)
  | float (x : Binary64) : RepeatsNoKey (float x)
  | string (s : String) : RepeatsNoKey (string s)
  | array {items : List Json} : (∀ j ∈ items, RepeatsNoKey j) → RepeatsNoKey (array items)
  | object {entries : List (String × Json)} : (entries.map (·.1)).Nodup →
      (∀ e ∈ entries, RepeatsNoKey e.2) → RepeatsNoKey (object entries)

/-! ### Key order -/

section Entries

variable {α : Type}

lemma insertEntry_perm {key : String} {value : α} {entries : List (String × α)}
    (h : key ∉ entries.map (·.1)) :
    (insertEntry key value entries).Perm ((key, value) :: entries) := by
  induction entries with
  | nil => exact .refl _
  | cons e rest ih =>
    rw [List.map_cons, List.mem_cons, not_or] at h
    unfold insertEntry
    split_ifs with hlt heq
    · exact .refl _
    · exact absurd heq h.1
    · exact ((ih h.2).cons _).trans (.swap _ _ _)

/-- Entries of different keys are only rearranged. -/
lemma sortEntries_perm {entries : List (String × α)} (h : (entries.map (·.1)).Nodup) :
    (sortEntries entries).Perm entries := by
  induction entries with
  | nil => exact .refl _
  | cons e rest ih =>
    rw [List.map_cons, List.nodup_cons] at h
    have hrest : (sortEntries rest).Perm rest := ih h.2
    have hkey : e.1 ∉ (sortEntries rest).map (·.1) := by
      rw [(hrest.map _).mem_iff]
      exact h.1
    exact (insertEntry_perm hkey).trans (hrest.cons e)

end Entries

lemma map_keys_normalEntries (entries : List (String × Json)) :
    (normalEntries entries).map (·.1) = entries.map (·.1) := by
  rw [normalEntries_eq_map, List.map_map]
  rfl

/-! ### Records -/

namespace Decoder

variable {α : Type} {fields : List (Field Decoder α)}

/-- What an entry puts into a record: nothing if no field has its key. -/
def entryPut (fields : List (Field Decoder α)) (e : String × Json) : Except Mismatch (α → α) :=
  match fields.find? (·.name == e.1) with
  | none => .ok id
  | some field => field.read e.2

lemma readEntries_cons (record : α) (e : String × Json) (rest : List (String × Json)) :
    readEntries fields record (e :: rest) =
      (entryPut fields e).bind fun put => readEntries fields (put record) rest := by
  obtain ⟨key, value⟩ := e
  rw [readEntries, entryPut]
  cases fields.find? (·.name == key) with
  | none => rfl
  | some field =>
    dsimp only
    cases field.read value <;> rfl

/-- It does not matter which of two fields is put into a record first. -/
def Commute (f g : Field Decoder α) : Prop :=
  ∀ j k put other, f.read j = .ok put → g.read k = .ok other →
    ∀ record, put (other record) = other (put record)

lemma commute_of {β γ : Type} {name other : String} {d : Decoder β} {d' : Decoder γ}
    {put : β → α → α} {put' : γ → α → α} (h : ∀ b b' a, put b (put' b' a) = put' b' (put b a)) :
    Commute (.of name d put) (.of other d' put') := by
  rintro j k _ _ hread hother record
  change (d j).map put = _ at hread
  change (d' k).map put' = _ at hother
  obtain ⟨b, -, rfl⟩ := exists_of_map_eq_ok hread
  obtain ⟨b', -, rfl⟩ := exists_of_map_eq_ok hother
  exact h b b' record

instance : Std.Symm (@Commute α) where
  symm _ _ h j k put other hput hother record := (h k j other put hother hput record).symm

lemma entryPut_comm (hfields : fields.Pairwise Commute) {e f : String × Json} (hne : e.1 ≠ f.1)
    {put other : α → α} (he : entryPut fields e = .ok put) (hf : entryPut fields f = .ok other)
    (record : α) : put (other record) = other (put record) := by
  unfold entryPut at he hf
  split at he
  · cases he
    rfl
  next field hfield =>
  split at hf
  · cases hf
    rfl
  next field' hfield' =>
  have hname : field.name = e.1 := by simpa using List.find?_some hfield
  have hname' : field'.name = f.1 := by simpa using List.find?_some hfield'
  have hdiffer : field ≠ field' := by
    rintro rfl
    exact hne (hname.symm.trans hname')
  have hcommute : Commute field field' :=
    hfields.forall (List.mem_of_find?_eq_some hfield) (List.mem_of_find?_eq_some hfield') hdiffer
  exact hcommute _ _ put other he hf record

/-- Entries of different keys make the same record in any order, or none in any order. -/
theorem readEntries_of_perm (hfields : fields.Pairwise Commute)
    {entries others : List (String × Json)} (hperm : entries.Perm others)
    (hkeys : (entries.map (·.1)).Nodup) (record : α) :
    (readEntries fields record entries).toOption = (readEntries fields record others).toOption := by
  induction hperm generalizing record with
  | nil => rfl
  | cons e _ ih =>
    rw [List.map_cons, List.nodup_cons] at hkeys
    rw [readEntries_cons, readEntries_cons]
    cases entryPut fields e with
    | error => rfl
    | ok put => exact ih hkeys.2 (put record)
  | swap e f rest =>
    have hne : f.1 ≠ e.1 := by
      rw [List.map_cons, List.nodup_cons, List.map_cons, List.mem_cons, not_or] at hkeys
      exact hkeys.1.1
    simp only [readEntries_cons]
    cases he : entryPut fields e with
    | error => cases hf : entryPut fields f <;> rfl
    | ok put =>
      cases hf : entryPut fields f with
      | error => rfl
      | ok other =>
        simp only [Except.bind]
        rw [entryPut_comm hfields hne.symm he hf]
  | trans hfirst hsecond ih ih' =>
    have hmiddle := (hfirst.map (·.1)).nodup_iff.mp hkeys
    exact (ih hkeys record).trans (ih' hmiddle record)

end Decoder

end RuleIntake.Json
