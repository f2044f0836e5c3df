import Mathlib.Data.List.Induction
import Mathlib.Tactic.Common
import RuleIntake.Proofs.MessagePackRoundTrip
import RuleIntake.Proofs.TreeReading

/-!
# What bytes hold

However the bytes of a value are laid out, what is read from them is canonical and nests at most as
deep as the reader may go, and its lengths can be written again: they are read from words of at most
four bytes, and a text has as many bytes as were read.
-/

namespace RuleIntake

/-- A value that bytes can hold where so many levels may be opened. -/
structure Json.IsUnpackedWithin (n : Nat) (j : Json) : Prop where
  lengths : j.LengthsFit
  depth : j.depth ≤ n

namespace MessagePack

variable {α : Type} {bytes rest : List UInt8} {width n room : Nat}

/-! ### Lengths -/

lemma wordValue_lt (bytes : List UInt8) : wordValue bytes < 256 ^ bytes.length := by
  induction bytes using List.reverseRecOn with
  | nil => exact Nat.one_pos
  | append_singleton bytes b ih =>
    have hb := b.toNat_lt
    rw [wordValue_append, List.length_append, List.length_singleton, Nat.pow_succ']
    omega

lemma length_of_split? {taken : List UInt8} (h : split? n bytes = some (taken, rest)) :
    taken.length = n := by
  induction n generalizing bytes taken with
  | zero =>
    cases h
    rfl
  | succ n ih =>
    obtain _ | ⟨b, bytes⟩ := bytes
    · cases h
    obtain ⟨⟨more, after⟩, hmore, hend⟩ := Option.map_eq_some_iff.mp h
    cases hend
    rw [List.length_cons, ih hmore]

lemma lt_of_readWord (h : readWord width bytes = .ok (n, rest)) : n < 256 ^ width := by
  rw [readWord] at h
  split at h
  · cases h
  · next word after hsplit =>
    cases h
    rw [← length_of_split? hsplit]
    exact wordValue_lt word

/-- The length of what stands behind a head. -/
def Head.length? : Head → Option Nat
  | .string length => some length
  | .bytes length => some length
  | .array size => some size
  | .map size => some size
  | _ => none

/-- A head that is made from a word of at most four bytes. -/
lemma lt_of_readWord_map (head : Nat → Head) {result : Head} (hwidth : width ≤ 4)
    (hlength : ∀ n, (head n).length? = some n)
    (h : ((readWord width bytes).map fun (n, rest) => (head n, rest)) = .ok (result, rest)) :
    ∀ n ∈ result.length?, n < 2 ^ 32 := by
  obtain ⟨⟨n, after⟩, hword, hend⟩ := exists_of_map_eq_ok h
  cases hend
  rw [hlength]
  rintro _ ⟨⟩
  calc n < 256 ^ width := lt_of_readWord hword
    _ ≤ 256 ^ 4 := Nat.pow_le_pow_right (by omega) hwidth
    _ = 2 ^ 32 := rfl

/-- A head without a length, made from a word. -/
lemma forall_length_of_readWord_map {P : Nat → Prop} (head : Nat → Head) {result : Head}
    (hlength : ∀ n, (head n).length? = none)
    (h : ((readWord width bytes).map fun (n, rest) => (head n, rest)) = .ok (result, rest)) :
    ∀ n ∈ result.length?, P n := by
  obtain ⟨⟨n, after⟩, -, hend⟩ := exists_of_map_eq_ok h
  cases hend
  rw [hlength]
  rintro _ ⟨⟩

lemma shift_le_four {k : Nat} (h : k ≤ 2) : 1 <<< k ≤ 4 := by
  rw [Nat.one_shiftLeft]
  exact Nat.pow_le_pow_right (by omega) h

/-- Lengths take at most four bytes, those in the marker itself less than one. -/
def Marker.IsBounded : Marker → Prop
  | .smallString length => length < 0x20
  | .smallArray size => size < 0x10
  | .smallMap size => size < 0x10
  | .string width => width ≤ 4
  | .bytes width => width ≤ 4
  | .array width => width ≤ 4
  | .map width => width ≤ 4
  | _ => True

lemma Marker.isBounded_ite {p : Prop} [Decidable p] {a b : Marker} (ha : p → a.IsBounded)
    (hb : ¬p → b.IsBounded) : (if p then a else b).IsBounded := by
  by_cases h : p
  · rw [if_pos h]
    exact ha h
  · rw [if_neg h]
    exact hb h

lemma Marker.isBounded_ofByte (b : UInt8) : (Marker.ofByte b).IsBounded := by
  unfold Marker.ofByte
  refine isBounded_ite (fun _ => trivial) fun h0 => ?_
  refine isBounded_ite (fun h => show _ < 0x10 by omega) fun h1 => ?_
  refine isBounded_ite (fun h => show _ < 0x10 by omega) fun h2 => ?_
  refine isBounded_ite (fun h => show _ < 0x20 by omega) fun h3 => ?_
  refine isBounded_ite (fun _ => trivial) fun _ => ?_
  refine isBounded_ite (fun _ => trivial) fun _ => ?_
  refine isBounded_ite (fun _ => trivial) fun _ => ?_
  refine isBounded_ite (fun h => shift_le_four (by omega)) fun _ => ?_
  refine isBounded_ite (fun _ => trivial) fun _ => ?_
  refine isBounded_ite (fun _ => trivial) fun _ => ?_
  refine isBounded_ite (fun _ => trivial) fun _ => ?_
  refine isBounded_ite (fun _ => trivial) fun _ => ?_
  refine isBounded_ite (fun _ => trivial) fun _ => ?_
  refine isBounded_ite (fun _ => trivial) fun _ => ?_
  refine isBounded_ite (fun h => shift_le_four (by omega)) fun _ => ?_
  refine isBounded_ite (fun h => shift_le_four (by omega)) fun _ => ?_
  refine isBounded_ite (fun h => shift_le_four (by omega)) fun _ => ?_
  exact trivial

lemma lt_of_readHeadOf {marker : Marker} {head : Head} (hmarker : marker.IsBounded)
    (h : readHeadOf marker bytes = .ok (head, rest)) : ∀ n ∈ head.length?, n < 2 ^ 32 := by
  cases marker with
  | smallString length =>
    cases h
    rintro _ ⟨⟩
    exact Nat.lt_trans hmarker (by decide)
  | smallArray size =>
    cases h
    rintro _ ⟨⟩
    exact Nat.lt_trans hmarker (by decide)
  | smallMap size =>
    cases h
    rintro _ ⟨⟩
    exact Nat.lt_trans hmarker (by decide)
  | string width => exact lt_of_readWord_map _ hmarker (fun _ => rfl) h
  | bytes width => exact lt_of_readWord_map _ hmarker (fun _ => rfl) h
  | array width => exact lt_of_readWord_map _ hmarker (fun _ => rfl) h
  | map width => exact lt_of_readWord_map _ hmarker (fun _ => rfl) h
  | extension width => exact forall_length_of_readWord_map _ (fun _ => rfl) h
  | single => exact forall_length_of_readWord_map (fun n => .single (.ofNat n)) (fun _ => rfl) h
  | double => exact forall_length_of_readWord_map (fun n => .double (.ofNat n)) (fun _ => rfl) h
  | unsigned width => exact forall_length_of_readWord_map _ (fun _ => rfl) h
  | signed width =>
    exact forall_length_of_readWord_map (fun n => .signed (signedValue width n)) (fun _ => rfl) h
  | reserved => cases h
  | _ =>
    cases h
    rintro _ ⟨⟩

lemma lt_of_readHead {head : Head} (h : readHead bytes = .ok (head, rest)) :
    ∀ n ∈ head.length?, n < 2 ^ 32 := by
  obtain _ | ⟨b, bytes⟩ := bytes
  · cases h
  · exact lt_of_readHeadOf (Marker.isBounded_ofByte b) h

/-! ### Strings -/

lemma length_of_readText {s : String} (h : readText n bytes = .ok (s, rest)) :
    (Utf8.encode s).length = n := by
  rw [readText] at h
  split at h
  · cases h
  next slice after hslice =>
  split at h
  · cases h
  next text hdecode =>
  cases h
  rw [readSlice] at hslice
  split at hslice
  · cases hslice
  next parts hsplit =>
  cases hslice
  rw [Utf8.encode_of_decode hdecode, length_of_split? hsplit]

lemma lengthFits_of_readText {s : String} (h : readText n bytes = .ok (s, rest))
    (hn : n < 2 ^ 32) : LengthFits s := by
  rw [LengthFits, length_of_readText h]
  exact hn

lemma lengthFits_of_readString {s : String} (h : readString room bytes = .ok (s, rest)) :
    LengthFits s := by
  rw [readString] at h
  split at h
  · cases h
  · next length after hhead => exact lengthFits_of_readText h (lt_of_readHead hhead length rfl)
  · next length after hhead =>
    split at h
    · cases h
    · exact lengthFits_of_readText h (lt_of_readHead hhead length rfl)
  · cases h

lemma lengthFits_of_readFirstKey {s : String} (h : readFirstKey room bytes = .ok (s, rest)) :
    LengthFits s := by
  rw [readFirstKey] at h
  split at h
  · cases h
  · next length after hhead => exact lengthFits_of_readText h (lt_of_readHead hhead length rfl)
  · cases h

/-! ### Sequences -/

section Sequences

variable {P : α → Prop} {element : List UInt8 → Outcome α}

lemma of_readMany (helement : ∀ bytes a rest, element bytes = .ok (a, rest) → P a)
    {as : List α} (h : readMany element n bytes = .ok (as, rest)) :
    as.length = n ∧ ∀ a ∈ as, P a := by
  induction n generalizing bytes as with
  | zero =>
    cases h
    simp
  | succ n ih =>
    rw [readMany] at h
    split at h
    · cases h
    next a after ha =>
    obtain ⟨⟨more, _⟩, hmore, hend⟩ := exists_of_map_eq_ok h
    cases hend
    obtain ⟨hlength, hall⟩ := ih hmore
    rw [List.length_cons, hlength, List.forall_mem_cons]
    exact ⟨rfl, helement _ _ _ ha, hall⟩

end Sequences

section Entries

variable {P : Json → Prop} {value : List UInt8 → Outcome Json}

lemma of_readEntry {key : List UInt8 → Outcome String}
    (hkey : ∀ bytes s rest, key bytes = .ok (s, rest) → LengthFits s)
    (hvalue : ∀ bytes j rest, value bytes = .ok (j, rest) → P j) {e : String × Json}
    (h : readEntry key value bytes = .ok (e, rest)) : LengthFits e.1 ∧ P e.2 := by
  rw [readEntry] at h
  split at h
  · cases h
  next k after hk =>
  obtain ⟨⟨j, _⟩, hj, hend⟩ := exists_of_map_eq_ok h
  cases hend
  exact ⟨hkey _ _ _ hk, hvalue _ _ _ hj⟩

lemma of_readEntries (hvalue : ∀ bytes j rest, value bytes = .ok (j, rest) → P j)
    {entries : List (String × Json)} (h : readEntries room value n bytes = .ok (entries, rest)) :
    entries.length = n ∧ ∀ e ∈ entries, LengthFits e.1 ∧ P e.2 := by
  obtain _ | n := n
  · cases h
    simp
  rw [readEntries] at h
  split at h
  · cases h
  next first after hfirst =>
  obtain ⟨⟨more, _⟩, hmore, hend⟩ := exists_of_map_eq_ok h
  cases hend
  have hone := of_readEntry (fun _ _ _ => lengthFits_of_readFirstKey) hvalue hfirst
  have hentry : ∀ bytes e rest, readEntry (readString room) value bytes = .ok (e, rest) →
      LengthFits e.1 ∧ P e.2 :=
    fun _ _ _ => of_readEntry (fun _ _ _ => lengthFits_of_readString) hvalue
  obtain ⟨hlength, hall⟩ := of_readMany hentry hmore
  rw [List.length_cons, hlength, List.forall_mem_cons]
  exact ⟨rfl, hone, hall⟩

end Entries

/-! ### Trees -/

lemma isUnpackedWithin_integerValue (n : Int) : (integerValue n).IsUnpackedWithin room := by
  rw [integerValue]
  split
  · exact ⟨.integer _, Nat.zero_le _⟩
  · exact ⟨.null, Nat.zero_le _⟩

lemma isUnpackedWithin_floatValue (x : Option Binary64) :
    (floatValue x).IsUnpackedWithin room := by
  cases x with
  | none => exact ⟨.null, Nat.zero_le _⟩
  | some x => exact ⟨.float x, Nat.zero_le _⟩

/-- The values inside a head are one level further in. -/
lemma isUnpackedWithin_of_readTreeOf {head : Head} {j : Json}
    (hhead : ∀ n ∈ head.length?, n < 2 ^ 32)
    (hinside : ∀ inner, room = inner + 1 → ∀ bytes j rest,
      readInside room bytes = .ok (j, rest) → j.IsUnpackedWithin inner)
    (h : readTreeOf room (readInside room) head bytes = .ok (j, rest)) :
    j.IsUnpackedWithin room := by
  cases head with
  | nil =>
    cases h
    exact ⟨.null, Nat.zero_le _⟩
  | bool b =>
    cases h
    exact ⟨.bool b, Nat.zero_le _⟩
  | unsigned n =>
    obtain ⟨rfl, -⟩ := Prod.mk.inj (Except.ok.inj h)
    exact isUnpackedWithin_integerValue _
  | signed n =>
    obtain ⟨rfl, -⟩ := Prod.mk.inj (Except.ok.inj h)
    exact isUnpackedWithin_integerValue _
  | single bits =>
    obtain ⟨rfl, -⟩ := Prod.mk.inj (Except.ok.inj h)
    exact isUnpackedWithin_floatValue _
  | double bits =>
    obtain ⟨rfl, -⟩ := Prod.mk.inj (Except.ok.inj h)
    exact isUnpackedWithin_floatValue _
  | string length =>
    obtain ⟨⟨s, _⟩, hs, hend⟩ := exists_of_map_eq_ok h
    cases hend
    exact ⟨.string (lengthFits_of_readText hs (hhead length rfl)), Nat.zero_le _⟩
  | array size =>
    rw [readTreeOf] at h
    obtain _ | inner := room
    · rw [if_pos rfl] at h
      cases h
    rw [if_neg (Nat.succ_ne_zero _)] at h
    obtain ⟨⟨items, _⟩, hitems, hend⟩ := exists_of_map_eq_ok h
    cases hend
    obtain ⟨hlength, hall⟩ := of_readMany (hinside inner rfl) hitems
    constructor
    · apply Json.LengthsFit.array (by rw [hlength]; exact hhead size rfl)
      exact fun item hitem => (hall item hitem).lengths
    · exact Nat.succ_le_succ (Json.itemsDepth_le.mpr fun item hitem => (hall item hitem).depth)
  | map size =>
    rw [readTreeOf] at h
    obtain _ | inner := room
    · rw [if_pos rfl] at h
      cases h
    rw [if_neg (Nat.succ_ne_zero _)] at h
    obtain ⟨⟨entries, _⟩, hentries, hend⟩ := exists_of_map_eq_ok h
    cases hend
    obtain ⟨hlength, hall⟩ := of_readEntries (hinside inner rfl) hentries
    constructor
    · apply Json.LengthsFit.object (by rw [hlength]; exact hhead size rfl)
      · exact fun e he => (hall e he).1
      · exact fun e he => (hall e he).2.lengths
    · exact Nat.succ_le_succ (Json.entriesDepth_le.mpr fun e he => (hall e he).2.depth)
  | bytes => cases h
  | extension => cases h

lemma isUnpackedWithin_of_readTree {j : Json} (h : readTree room bytes = .ok (j, rest)) :
    j.IsUnpackedWithin room := by
  induction room generalizing bytes rest j with
  | zero =>
    rw [readTree] at h
    split at h
    · cases h
    next head after hhead =>
    refine isUnpackedWithin_of_readTreeOf (lt_of_readHead hhead) ?_ h
    intro inner hroom
    cases hroom
  | succ room ih =>
    rw [readTree] at h
    split at h
    · cases h
    next head after hhead =>
    refine isUnpackedWithin_of_readTreeOf (lt_of_readHead hhead) ?_ h
    rintro _ ⟨⟩ bytes j rest hread
    exact ih hread

end MessagePack

/-! ### Normal forms -/

namespace Json

lemma length_insertEntry_le {α : Type} (key : String) (value : α) (entries : List (String × α)) :
    (insertEntry key value entries).length ≤ entries.length + 1 := by
  induction entries with
  | nil => exact Nat.le_refl _
  | cons e entries ih =>
    unfold insertEntry
    split_ifs
    · exact Nat.le_refl _
    · exact Nat.le_succ _
    · exact Nat.succ_le_succ ih

lemma length_sortEntries_le {α : Type} (entries : List (String × α)) :
    (sortEntries entries).length ≤ entries.length := by
  induction entries with
  | nil => exact Nat.le_refl _
  | cons e entries ih =>
    exact Nat.le_trans (length_insertEntry_le _ _ _) (Nat.succ_le_succ ih)

lemma lengthsFit_normal {j : Json} (h : j.LengthsFit) : j.normal.LengthsFit := by
  induction j with
  | null => exact h
  | bool => exact h
  | integer => exact h
  | float => exact h
  | string => exact h
  | array items ih =>
    cases h with
    | array hlength hitems =>
      rw [normal, normalItems_eq_map]
      apply LengthsFit.array
      · rw [List.length_map]
        exact hlength
      · intro j hj
        obtain ⟨item, hitem, rfl⟩ := List.mem_map.mp hj
        exact ih item hitem (hitems item hitem)
  | object entries ih =>
    cases h with
    | object hlength hkeys hvalues =>
      rw [normal, normalEntries_eq_map, ofEntries]
      have hshorter := length_sortEntries_le (entries.map fun e => (e.1, e.2.normal))
      rw [List.length_map] at hshorter
      apply LengthsFit.object (Nat.lt_of_le_of_lt hshorter hlength)
      · intro e he
        obtain ⟨entry, hentry, rfl⟩ := List.mem_map.mp (mem_sortEntries he)
        exact hkeys entry hentry
      · intro e he
        obtain ⟨entry, hentry, rfl⟩ := List.mem_map.mp (mem_sortEntries he)
        exact ih entry hentry (hvalues entry hentry)

end Json

/-- What is read as a value can be written again and read again. -/
theorem MessagePack.isUnpackedWithin_of_readValue {room : Nat} {bytes rest : List UInt8} {j : Json}
    (h : readValue room bytes = .ok (j, rest)) : j.IsCanonical ∧ j.IsUnpackedWithin room := by
  obtain ⟨⟨tree, _⟩, htree, hend⟩ := exists_of_map_eq_ok h
  cases hend
  have hread := isUnpackedWithin_of_readTree htree
  exact ⟨Json.isCanonical_normal tree, Json.lengthsFit_normal hread.lengths,
    Nat.le_trans (Json.depth_normal_le tree) hread.depth⟩

end RuleIntake
