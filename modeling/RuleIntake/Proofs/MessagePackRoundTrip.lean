import Mathlib.Tactic.Common
import RuleIntake.MessagePack.Value
import RuleIntake.Proofs.JsonShape
import RuleIntake.Proofs.MessagePackHeads

/-!
# MessagePack values are read back

The encoding of a JSON value is read as the value if there is room for its nesting, and refused as
too deep otherwise. What follows the encoding is left alone.
-/

namespace RuleIntake

/-- The length of a string can be written: its bytes are fewer than `2 ^ 32`. -/
def LengthFits (s : String) : Prop := (Utf8.encode s).length < 2 ^ 32

instance (s : String) : Decidable (LengthFits s) := inferInstanceAs (Decidable (_ < _))

/-- The lengths of all strings, arrays and objects in a value can be written. -/
inductive Json.LengthsFit : Json → Prop
  | null : LengthsFit null
  | bool (b : Bool) : LengthsFit (bool b)
  | integer (n : WireInt) : LengthsFit (integer n)
  | float (x : Binary64) : LengthsFit (float x)
  | string {s : String} : LengthFits s → LengthsFit (string s)
  | array {items : List Json} : items.length < 2 ^ 32 → (∀ j ∈ items, LengthsFit j) →
      LengthsFit (array items)
  | object {entries : List (String × Json)} : entries.length < 2 ^ 32 →
      (∀ e ∈ entries, LengthFits e.1) → (∀ e ∈ entries, LengthsFit e.2) →
      LengthsFit (object entries)

lemma Json.lengthsFit_wrapped {j : Json} (h : j.LengthsFit) (n : Nat) :
    (j.wrapped n).LengthsFit := by
  induction n with
  | zero => exact h
  | succ n ih =>
    apply LengthsFit.array
    · simp
    · simpa using ih

namespace MessagePack

/-! ### Strings -/

lemma readText_encoded (s : String) (rest : List UInt8) :
    readText (Utf8.encode s).length (Utf8.encode s ++ rest) = .ok (s, rest) := by
  rw [readText, readSlice, split_append]
  dsimp only
  rw [Utf8.decode_encode]

lemma readHead_encodeString {s : String} (h : LengthFits s) (rest : List UInt8) :
    readHead (encodeString s ++ rest) =
      .ok (.string (Utf8.encode s).length, Utf8.encode s ++ rest) := by
  rw [encodeString, List.append_assoc, readHead_stringHead h]

lemma readString_encodeString {s : String} (h : LengthFits s) (room : Nat) (rest : List UInt8) :
    readString room (encodeString s ++ rest) = .ok (s, rest) := by
  rw [readString, readHead_encodeString h]
  exact readText_encoded s rest

lemma readFirstKey_encodeString {s : String} (h : LengthFits s) (room : Nat)
    (rest : List UInt8) :
    readFirstKey room (encodeString s ++ rest) = .ok (s, rest) := by
  rw [readFirstKey, readHead_encodeString h]
  exact readText_encoded s rest

/-! ### Sequences -/

section Sequences

variable {α : Type} {element : List UInt8 → Outcome α} {encode : α → List UInt8}

/-- Elements that are read back one by one are read back one after the other, up to the first one
that is too deep. -/
lemma readMany_encoded (depth : α → Nat) (room : Nat) {items : List α}
    (h : ∀ a ∈ items, ∀ rest, element (encode a ++ rest) =
      if depth a ≤ room then .ok (a, rest) else .error .tooDeep) (rest : List UInt8) :
    readMany element items.length (items.flatMap encode ++ rest) =
      if ∀ a ∈ items, depth a ≤ room then .ok (items, rest) else .error .tooDeep := by
  induction items with
  | nil => simp [readMany]
  | cons a items ih =>
    obtain ⟨ha, hitems⟩ := List.forall_mem_cons.mp h
    rw [List.flatMap_cons, List.append_assoc, List.length_cons, readMany, ha]
    simp only [List.forall_mem_cons]
    by_cases hd : depth a ≤ room
    · rw [if_pos hd]
      dsimp only
      rw [ih hitems]
      by_cases hr : ∀ b ∈ items, depth b ≤ room
      · rw [if_pos hr, if_pos ⟨hd, hr⟩]
        rfl
      · have hnot : ¬(depth a ≤ room ∧ ∀ b ∈ items, depth b ≤ room) := fun hall => hr hall.2
        rw [if_neg hr, if_neg hnot]
        rfl
    · have hnot : ¬(depth a ≤ room ∧ ∀ b ∈ items, depth b ≤ room) := fun hall => hd hall.1
      rw [if_neg hd, if_neg hnot]

end Sequences

lemma encodeItems_eq_flatMap (items : List Json) :
    encodeItems items = items.flatMap encodeValue := by
  induction items with
  | nil => rfl
  | cons item items ih => rw [encodeItems, ih, List.flatMap_cons]

def encodeEntry (e : String × Json) : List UInt8 := encodeString e.1 ++ encodeValue e.2

lemma encodeEntries_eq_flatMap (entries : List (String × Json)) :
    encodeEntries entries = entries.flatMap encodeEntry := by
  induction entries with
  | nil => rfl
  | cons e entries ih =>
    obtain ⟨key, value⟩ := e
    rw [encodeEntries, ih, List.flatMap_cons, encodeEntry]

/-! ### Trees -/

/-- Reads a tree one level further in, if there is a level left. -/
def readInside : Nat → List UInt8 → Outcome Json
  | 0 => fun _ => .error .tooDeep
  | room + 1 => readTree room

lemma readTree_of_head {room : Nat} {bytes rest : List UInt8} {head : Head}
    (h : readHead bytes = .ok (head, rest)) :
    readTree room bytes = readTreeOf room (readInside room) head rest := by
  cases room <;> rw [readTree, h] <;> rfl

/-- A value is read from its encoding where it is not nested deeper than there is room. -/
def ReadsBack (j : Json) : Prop :=
  ∀ room rest, readTree room (encodeValue j ++ rest) =
    if j.depth ≤ room then .ok (j, rest) else .error .tooDeep

lemma readEntry_encoded (room : Nat) {key : List UInt8 → Outcome String} {e : String × Json}
    (hkey : ∀ rest, key (encodeString e.1 ++ rest) = .ok (e.1, rest)) (h : ReadsBack e.2)
    (rest : List UInt8) :
    readEntry key (readTree room) (encodeEntry e ++ rest) =
      if e.2.depth ≤ room then .ok (e, rest) else .error .tooDeep := by
  rw [encodeEntry, List.append_assoc, readEntry, hkey]
  dsimp only
  rw [h]
  by_cases hd : e.2.depth ≤ room
  · rw [if_pos hd, if_pos hd]
    rfl
  · rw [if_neg hd, if_neg hd]
    rfl

lemma readEntries_encoded {room level : Nat} {entries : List (String × Json)}
    (hkeys : ∀ e ∈ entries, LengthFits e.1) (h : ∀ e ∈ entries, ReadsBack e.2)
    (rest : List UInt8) :
    readEntries level (readTree room) entries.length (entries.flatMap encodeEntry ++ rest) =
      if ∀ e ∈ entries, e.2.depth ≤ room then .ok (entries, rest) else .error .tooDeep := by
  obtain _ | ⟨e, entries⟩ := entries
  · simp [readEntries]
  obtain ⟨hkey, hkeys⟩ := List.forall_mem_cons.mp hkeys
  obtain ⟨he, hes⟩ := List.forall_mem_cons.mp h
  have hfirst := readEntry_encoded room (readFirstKey_encodeString hkey level) he
  have hmore := readMany_encoded (fun e => e.2.depth) room
    fun e hm => readEntry_encoded room (readString_encodeString (hkeys e hm) level) (hes e hm)
  rw [List.flatMap_cons, List.append_assoc, List.length_cons, readEntries, hfirst]
  simp only [List.forall_mem_cons]
  by_cases hd : e.2.depth ≤ room
  · rw [if_pos hd]
    dsimp only
    rw [hmore]
    by_cases hr : ∀ e ∈ entries, e.2.depth ≤ room
    · rw [if_pos hr, if_pos ⟨hd, hr⟩]
      rfl
    · have hnot : ¬(e.2.depth ≤ room ∧ ∀ e ∈ entries, e.2.depth ≤ room) := fun hall => hr hall.2
      rw [if_neg hr, if_neg hnot]
      rfl
  · have hnot : ¬(e.2.depth ≤ room ∧ ∀ e ∈ entries, e.2.depth ≤ room) := fun hall => hd hall.1
    rw [if_neg hd, if_neg hnot]

lemma integerValue_val (n : WireInt) : integerValue n.val = .integer n := by
  rw [integerValue, WireInt.ofInt?_val]

lemma readTreeOf_integerHead (room : Nat) (nested : List UInt8 → Outcome Json) (n : WireInt)
    (rest : List UInt8) :
    readTreeOf room nested (integerHead n.val) rest = .ok (.integer n, rest) := by
  unfold integerHead
  split_ifs with h0
  · rw [readTreeOf, Int.toNat_of_nonneg h0, integerValue_val]
  · rw [readTreeOf, integerValue_val]

/-- The encoding of a value is read as the value if there is room for its nesting, and refused as
too deep otherwise. -/
theorem readsBack_of_lengthsFit (j : Json) (h : j.LengthsFit) : ReadsBack j := by
  intro room rest
  induction j generalizing room rest with
  | null => cases room <;> rfl
  | bool b => cases room <;> cases b <;> rfl
  | integer n =>
    rw [encodeValue, readTree_of_head (readHead_encodeInteger n rest), readTreeOf_integerHead]
    rfl
  | float x =>
    rw [encodeValue, readTree_of_head (readHead_encodeFloat x rest), readTreeOf,
      Binary64.ofBits?_bits]
    rfl
  | string s =>
    cases h with
    | string hs =>
      rw [encodeValue, readTree_of_head (readHead_encodeString hs rest), readTreeOf,
        readText_encoded]
      rfl
  | array items ih =>
    cases h with
    | array hlength hitems =>
      rw [encodeValue, List.append_assoc, readTree_of_head (readHead_arrayHead hlength _),
        readTreeOf, Json.depth]
      obtain _ | room := room
      · rw [if_pos rfl, if_neg (Nat.not_succ_le_zero _)]
      have hmany := readMany_encoded Json.depth room
        (fun j hj rest => ih j hj (hitems j hj) room rest) rest
      rw [if_neg (Nat.succ_ne_zero _), encodeItems_eq_flatMap, readInside, hmany]
      simp only [Nat.succ_le_succ_iff, Json.itemsDepth_le]
      split_ifs <;> rfl
  | object entries ih =>
    cases h with
    | object hlength hkeys hvalues =>
      rw [encodeValue, List.append_assoc, readTree_of_head (readHead_mapHead hlength _),
        readTreeOf, Json.depth]
      obtain _ | room := room
      · rw [if_pos rfl, if_neg (Nat.not_succ_le_zero _)]
      have hvaluesBack : ∀ e ∈ entries, ReadsBack e.2 := by
        intro e he room rest
        exact ih e he (hvalues e he) room rest
      rw [if_neg (Nat.succ_ne_zero _), encodeEntries_eq_flatMap, readInside,
        readEntries_encoded hkeys hvaluesBack]
      simp only [Nat.succ_le_succ_iff, Json.entriesDepth_le]
      split_ifs <;> rfl

end MessagePack

end RuleIntake
