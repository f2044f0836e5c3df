import Mathlib
import RuleIntake.Proofs.KeyOrder
import RuleIntake.Proofs.MessagePackRoundTrip
import RuleIntake.Proofs.RecordSpelling

/-!
# Packed values

All the ways to write a JSON value as MessagePack, told without a reader: integers and lengths may
take any form that is able to hold them, and objects may list their entries in any order. Whatever
way is taken, the value is read, or passed over, up to its last byte.
-/

namespace RuleIntake

/-- Entries that are a rearrangement of entries in key order are sorted into these. -/
lemma Json.sortEntries_of_perm {α : Type} {entries sorted : List (String × α)}
    (hperm : entries.Perm sorted) (hkeys : KeysIncrease sorted) :
    sortEntries entries = sorted := by
  have hnodup : (entries.map (·.1)).Nodup := (hperm.map _).nodup_iff.mpr hkeys.nodup
  have hincreasing : (sortEntries entries).Pairwise (·.1 < ·.1) :=
    List.pairwise_map.mp (keysIncrease_sortEntries entries)
  refine List.Perm.eq_of_pairwise ?_ hincreasing (List.pairwise_map.mp hkeys)
    ((sortEntries_perm hnodup).trans hperm)
  intro a b _ _ hab hba
  exact absurd (String.lt_trans hab hba) (String.lt_irrefl _)

namespace MessagePack

open Wire

variable {α β : Type} {bytes : List UInt8}

/-- Wherever bytes stand, they are read as the given value, and what follows is left alone. -/
def Yields (read : List UInt8 → Outcome α) (bytes : List UInt8) (a : α) : Prop :=
  ∀ rest, read (bytes ++ rest) = .ok (a, rest)

/-! ### Numbers and lengths -/

/-- The forms of the numbers of one kind: in the marker itself, counted from a base, below a bound,
and in words of so many bytes behind markers of their own. -/
structure Forms where
  base : Nat
  bound : Nat
  words : List (UInt8 × Nat)

namespace Forms

/-- Bytes that are some form of a number which is able to hold it. -/
inductive Holds (forms : Forms) : List UInt8 → Nat → Prop
  | inMarker {n : Nat} : n < forms.bound → Holds forms [.ofNat (forms.base + n)] n
  | inWord {marker : UInt8} {width n : Nat} : (marker, width) ∈ forms.words → n < 256 ^ width →
      Holds forms (withWord marker width n) n

def unsigned : Forms := ⟨0, 0x80, [(0xCC, 1), (0xCD, 2), (0xCE, 4), (0xCF, 8)]⟩

def string : Forms := ⟨0xA0, 0x20, [(0xD9, 1), (0xDA, 2), (0xDB, 4)]⟩

def array : Forms := ⟨0x90, 0x10, [(0xDC, 2), (0xDD, 4)]⟩

def map : Forms := ⟨0x80, 0x10, [(0xDE, 2), (0xDF, 4)]⟩

lemma Holds.yields {forms : Forms} {head : Nat → Head} {n : Nat} (h : forms.Holds bytes n)
    (hmarker : ∀ n < forms.bound, ∀ rest,
      readHeadOf (.ofByte (.ofNat (forms.base + n))) rest = .ok (head n, rest))
    (hwords : ∀ word ∈ forms.words, ∀ rest, readHeadOf (.ofByte word.1) rest =
      (readWord word.2 rest).map fun (n, rest) => (head n, rest)) :
    Yields readHead bytes (head n) := by
  intro rest
  cases h with
  | inMarker hn => exact readHead_marker _ rest rfl (hmarker n hn rest)
  | inWord hword hn => exact readHead_withWord head (hwords _ hword) hn rest

lemma Holds.yields_unsigned {n : Nat} (h : unsigned.Holds bytes n) :
    Yields readHead bytes (.unsigned n) := by
  have hmarker : ∀ n < 0x80, Marker.ofByte (.ofNat (0 + n)) = .smallPositive n := by decide
  refine h.yields (fun n hn rest => ?_) ?_
  · rw [unsigned, hmarker n hn, readHeadOf]
  · simp only [unsigned, List.forall_mem_cons]
    exact ⟨fun _ => rfl, fun _ => rfl, fun _ => rfl, fun _ => rfl, List.forall_mem_nil _⟩

lemma Holds.yields_string {n : Nat} (h : string.Holds bytes n) :
    Yields readHead bytes (.string n) := by
  have hmarker : ∀ n < 0x20, Marker.ofByte (.ofNat (0xA0 + n)) = .smallString n := by decide
  refine h.yields (fun n hn rest => ?_) ?_
  · rw [string, hmarker n hn, readHeadOf]
  · simp only [string, List.forall_mem_cons]
    exact ⟨fun _ => rfl, fun _ => rfl, fun _ => rfl, List.forall_mem_nil _⟩

lemma Holds.yields_array {n : Nat} (h : array.Holds bytes n) :
    Yields readHead bytes (.array n) := by
  have hmarker : ∀ n < 0x10, Marker.ofByte (.ofNat (0x90 + n)) = .smallArray n := by decide
  refine h.yields (fun n hn rest => ?_) ?_
  · rw [array, hmarker n hn, readHeadOf]
  · simp only [array, List.forall_mem_cons]
    exact ⟨fun _ => rfl, fun _ => rfl, List.forall_mem_nil _⟩

lemma Holds.yields_map {n : Nat} (h : map.Holds bytes n) : Yields readHead bytes (.map n) := by
  have hmarker : ∀ n < 0x10, Marker.ofByte (.ofNat (0x80 + n)) = .smallMap n := by decide
  refine h.yields (fun n hn rest => ?_) ?_
  · rw [map, hmarker n hn, readHeadOf]
  · simp only [map, List.forall_mem_cons]
    exact ⟨fun _ => rfl, fun _ => rfl, List.forall_mem_nil _⟩

end Forms

/-- An integer without sign, one just below zero in its marker, or a word in two's complement. -/
inductive IntegerPacked : List UInt8 → Int → Prop
  | unsigned {bytes : List UInt8} {n : Nat} : Forms.unsigned.Holds bytes n →
      IntegerPacked bytes n
  | inMarker {distance : Nat} : 0 < distance → distance ≤ 0x20 →
      IntegerPacked [.ofNat (0x100 - distance)] (-distance)
  | signed {marker : UInt8} {width : Nat} {n : Int} :
      (marker, width) ∈ [(0xD0, 1), (0xD1, 2), (0xD2, 4), (0xD3, 8)] →
        -2 ^ (8 * width - 1) ≤ n → n < 2 ^ (8 * width - 1) →
          IntegerPacked (withWord marker width (n % 2 ^ (8 * width)).toNat) n

lemma signedValue_emod {width bits : Nat} {n : Int} (hwidth : 8 * width = bits + 1)
    (hlower : -2 ^ bits ≤ n) (hupper : n < 2 ^ bits) :
    signedValue width (n % 2 ^ (8 * width)).toNat = n := by
  have hcast : (2 : Int) ^ bits = (2 ^ bits : Nat) := by norm_cast
  have hdouble : (2 : Int) ^ (bits + 1) = 2 * (2 ^ bits : Nat) := by rw [Int.pow_succ', hcast]
  have hdouble' : 2 ^ (bits + 1) = 2 * 2 ^ bits := Nat.pow_succ'
  rw [hcast] at hlower hupper
  rw [signedValue, hwidth, Nat.add_sub_cancel, hdouble, Nat.one_shiftLeft, Nat.one_shiftLeft,
    hdouble']
  by_cases hn : 0 ≤ n
  · rw [Int.emod_eq_of_lt hn (by omega), if_pos (by omega)]
    omega
  · have hmod : n % (2 * (2 ^ bits : Nat)) = n + 2 * (2 ^ bits : Nat) := by
      rw [← Int.add_emod_right, Int.emod_eq_of_lt (by omega) (by omega)]
    rw [hmod, if_neg (by omega)]
    omega

/-- A number in two's complement, behind the marker of its width. -/
lemma yields_signedWord {marker : UInt8} {width bits : Nat} {n : Int}
    (hwidth : 8 * width = bits + 1) (hlower : -2 ^ bits ≤ n) (hupper : n < 2 ^ bits)
    (hmarker : ∀ rest, readHeadOf (.ofByte marker) rest =
      (readWord width rest).map fun (n, rest) => (.signed (signedValue width n), rest)) :
    Yields readHead (withWord marker width (n % 2 ^ (8 * width)).toNat) (.signed n) := by
  have hlt : (n % 2 ^ (8 * width)).toNat < 256 ^ width := by
    have hpow : (2 : Int) ^ (8 * width) = (256 ^ width : Nat) := by
      rw [pow_mul]
      norm_cast
    have hpos : (0 : Int) < (256 ^ width : Nat) := by exact_mod_cast Nat.pow_pos (by decide)
    have hnonneg := Int.emod_nonneg n hpos.ne'
    have hless := Int.emod_lt_of_pos n hpos
    rw [hpow]
    omega
  intro rest
  rw [readHead_withWord (fun n => .signed (signedValue width n)) hmarker hlt,
    signedValue_emod hwidth hlower hupper]

/-- An integer is read with or without sign, but as itself. -/
lemma IntegerPacked.yields {n : Int} (h : IntegerPacked bytes n) :
    Yields readHead bytes (.signed n) ∨ ∃ m : Nat, n = m ∧ Yields readHead bytes (.unsigned m) := by
  cases h with
  | @unsigned _ m hm => exact .inr ⟨m, rfl, hm.yields_unsigned⟩
  | @inMarker distance hpos hle =>
    refine .inl fun rest => readHead_marker (.smallNegative (-distance)) rest ?_ rfl
    have hmarker : ∀ d ≤ 0x20, 0 < d →
        Marker.ofByte (.ofNat (0x100 - d)) = .smallNegative (-(d : Int)) := by decide
    exact hmarker distance hle hpos
  | @signed marker width n hmarker hlower hupper =>
    left
    simp only [List.mem_cons, Prod.mk.injEq, List.not_mem_nil, or_false] at hmarker
    obtain ⟨rfl, rfl⟩ | ⟨rfl, rfl⟩ | ⟨rfl, rfl⟩ | ⟨rfl, rfl⟩ := hmarker
    · exact yields_signedWord (show 8 * 1 = 7 + 1 from rfl) hlower hupper fun _ => rfl
    · exact yields_signedWord (show 8 * 2 = 15 + 1 from rfl) hlower hupper fun _ => rfl
    · exact yields_signedWord (show 8 * 4 = 31 + 1 from rfl) hlower hupper fun _ => rfl
    · exact yields_signedWord (show 8 * 8 = 63 + 1 from rfl) hlower hupper fun _ => rfl

/-! ### Strings and entries -/

/-- A head that holds the length, and the bytes of the string. -/
inductive StringPacked : List UInt8 → String → Prop
  | string {head : List UInt8} {s : String} : Forms.string.Holds head (Utf8.encode s).length →
      StringPacked (head ++ Utf8.encode s) s

/-- Keys with the bytes of their values, one behind the other. -/
inductive EntriesPacked : List UInt8 → List (String × List UInt8) → Prop
  | nil : EntriesPacked [] []
  | cons {key value more : List UInt8} {name : String} {entries : List (String × List UInt8)} :
      StringPacked key name → EntriesPacked more entries →
        EntriesPacked (key ++ value ++ more) ((name, value) :: entries)

section Strings

variable {s : String}

lemma StringPacked.readHead (h : StringPacked bytes s) (rest : List UInt8) :
    readHead (bytes ++ rest) =
      .ok (.string (Utf8.encode s).length, Utf8.encode s ++ rest) := by
  cases h with
  | string hhead => rw [List.append_assoc, hhead.yields_string]

lemma StringPacked.yields (h : StringPacked bytes s) (room : Nat) :
    Yields (readString room) bytes s := by
  intro rest
  rw [readString, h.readHead]
  exact readText_encoded s rest

lemma StringPacked.yields_firstKey (h : StringPacked bytes s) (room : Nat) :
    Yields (readFirstKey room) bytes s := by
  intro rest
  rw [readFirstKey, h.readHead]
  exact readText_encoded s rest

end Strings

/-! ### Values -/

/-- Bytes that are some form of a value. -/
inductive ValuePacked : List UInt8 → Json → Prop
  | null : ValuePacked nilBytes .null
  | bool (b : Bool) : ValuePacked [if b then 0xC3 else 0xC2] (.bool b)
  | integer {bytes : List UInt8} {n : WireInt} : IntegerPacked bytes n.val →
      ValuePacked bytes (.integer n)
  | double (x : Binary64) : ValuePacked (encodeFloat x) (.float x)
  | single {bits : UInt32} {x : Binary64} : Binary64.ofBinary32Bits? bits = some x →
      ValuePacked (withWord 0xCA 4 bits.toNat) (.float x)
  | string {bytes : List UInt8} {s : String} : StringPacked bytes s → ValuePacked bytes (.string s)
  | array {head : List UInt8} {parts : List (List UInt8 × Json)} :
      Forms.array.Holds head parts.length → (∀ p ∈ parts, ValuePacked p.1 p.2) →
        ValuePacked (head ++ (parts.map (·.1)).flatten) (.array (parts.map (·.2)))
  | object {head body : List UInt8} {parts : List (String × List UInt8 × Json)}
      {entries : List (String × Json)} :
      Forms.map.Holds head parts.length →
        EntriesPacked body (parts.map fun p => (p.1, p.2.1)) →
          (∀ p ∈ parts, ValuePacked p.2.1 p.2.2) →
            (parts.map fun p => (p.1, p.2.2)).Perm entries →
              ValuePacked (head ++ body) (.object entries)

/-- Bytes that are read as a tree of which the value is the normal form. -/
def ReadAs (room : Nat) (bytes : List UInt8) (j : Json) : Prop :=
  ∃ tree, tree.normal = j ∧ Yields (readTree room) bytes tree

section Sequences

variable {element : List UInt8 → Outcome α} {room : Nat}

lemma exists_forall₂ {R : α → β → Prop} {as : List α} (h : ∀ a ∈ as, ∃ b, R a b) :
    ∃ bs, List.Forall₂ R as bs := by
  induction as with
  | nil => exact ⟨[], .nil⟩
  | cons a as ih =>
    obtain ⟨⟨b, hb⟩, has⟩ := List.forall_mem_cons.mp h
    obtain ⟨bs, hbs⟩ := ih has
    exact ⟨b :: bs, .cons hb hbs⟩

lemma yields_many {parts : List (List UInt8)} {as : List α}
    (h : List.Forall₂ (Yields element) parts as) :
    Yields (readMany element parts.length) parts.flatten as := by
  induction h with
  | nil => exact fun rest => rfl
  | cons ha _ ih =>
    intro rest
    rw [List.length_cons, List.flatten_cons, List.append_assoc, readMany, ha]
    dsimp only
    rw [ih]
    rfl

lemma yields_entry {key : List UInt8 → Outcome String} {value : List UInt8 → Outcome Json}
    {name : String} {j : Json} {bytes' : List UInt8} (hkey : Yields key bytes name)
    (hvalue : Yields value bytes' j) :
    Yields (readEntry key value) (bytes ++ bytes') (name, j) := by
  intro rest
  rw [List.append_assoc, readEntry, hkey]
  dsimp only
  rw [hvalue]
  rfl

/-- What has been written as entries is read as entries. -/
def SameEntry (value : List UInt8 → Outcome Json) (e : String × List UInt8) (t : String × Json) :
    Prop :=
  e.1 = t.1 ∧ Yields value e.2 t.2

lemma yields_moreEntries {value : List UInt8 → Outcome Json} {entries : List (String × List UInt8)}
    {trees : List (String × Json)} (h : EntriesPacked bytes entries)
    (htrees : List.Forall₂ (SameEntry value) entries trees) :
    Yields (readMany (readEntry (readString room) value) entries.length) bytes trees := by
  induction h generalizing trees with
  | nil =>
    cases htrees
    exact fun rest => rfl
  | @cons key bytes' more name entries hkey _ ih =>
    cases htrees with
    | @cons _ t _ trees ht htrees =>
    obtain ⟨name', j⟩ := t
    obtain ⟨rfl, hvalue⟩ := ht
    intro rest
    rw [List.length_cons, List.append_assoc, readMany, yields_entry (hkey.yields room) hvalue]
    dsimp only
    rw [ih htrees]
    rfl

lemma yields_entries {value : List UInt8 → Outcome Json} {entries : List (String × List UInt8)}
    {trees : List (String × Json)} (h : EntriesPacked bytes entries)
    (htrees : List.Forall₂ (SameEntry value) entries trees) (room : Nat) :
    Yields (readEntries room value entries.length) bytes trees := by
  cases h with
  | nil =>
    cases htrees
    exact fun rest => rfl
  | @cons key bytes' more name entries hkey hmore =>
    cases htrees with
    | @cons _ t _ trees ht htrees =>
    obtain ⟨name', j⟩ := t
    obtain ⟨rfl, hvalue⟩ := ht
    intro rest
    rw [List.length_cons, List.append_assoc, readEntries,
      yields_entry (hkey.yields_firstKey room) hvalue]
    dsimp only
    rw [yields_moreEntries hmore htrees]
    rfl

end Sequences

/-! ### Reading -/

section Reading

variable {room : Nat}

lemma readAs_of_head {head : Head} {j : Json} (hhead : Yields readHead bytes head)
    (hj : j.normal = j)
    (htree : ∀ rest, readTreeOf room (readInside room) head rest = .ok (j, rest)) :
    ReadAs room bytes j := by
  refine ⟨j, hj, fun rest => ?_⟩
  rw [readTree_of_head (hhead rest), htree]

lemma readAs_integer {n : WireInt} (h : IntegerPacked bytes n.val) :
    ReadAs room bytes (.integer n) := by
  obtain hhead | ⟨m, hm, hhead⟩ := h.yields
  · exact readAs_of_head hhead rfl fun rest => by rw [readTreeOf, integerValue_val]
  · exact readAs_of_head hhead rfl fun rest => by rw [readTreeOf, ← hm, integerValue_val]

lemma yields_nil : Yields readHead nilBytes .nil := fun _ => rfl

lemma yields_bool (b : Bool) : Yields readHead [if b then 0xC3 else 0xC2] (.bool b) := by
  cases b <;> exact fun _ => rfl

lemma yields_float (x : Binary64) : Yields readHead (encodeFloat x) (.double x.bits) :=
  readHead_encodeFloat x

lemma yields_single (bits : UInt32) :
    Yields readHead (withWord 0xCA 4 bits.toNat) (.single bits) := by
  intro rest
  have hbits : bits.toNat < 256 ^ 4 := bits.toNat_lt
  rw [readHead_withWord (fun n => .single (.ofNat n)) (fun _ => rfl) hbits, UInt32.ofNat_toNat]

lemma readAs_string {s : String} (h : StringPacked bytes s) : ReadAs room bytes (.string s) := by
  refine ⟨.string s, rfl, fun rest => ?_⟩
  rw [readTree_of_head (h.readHead rest), readTreeOf, readText_encoded]
  rfl

lemma readAs_array {head : List UInt8} {parts : List (List UInt8 × Json)}
    (hhead : Forms.array.Holds head parts.length) (hparts : ∀ p ∈ parts, ReadAs room p.1 p.2) :
    ReadAs (room + 1) (head ++ (parts.map (·.1)).flatten) (.array (parts.map (·.2))) := by
  obtain ⟨trees, htrees⟩ := exists_forall₂ hparts
  have hnormal : trees.map Json.normal = parts.map (·.2) :=
    (map_eq_map_of_forall₂ htrees fun p t ht => ht.1.symm).symm
  have hmany : Yields (readMany (readTree room) parts.length) (parts.map (·.1)).flatten trees := by
    have hyields : List.Forall₂ (Yields (readTree room)) (parts.map (·.1)) trees := by
      rw [List.forall₂_map_left_iff]
      exact htrees.imp fun p t ht => ht.2
    have h := yields_many hyields
    rwa [List.length_map] at h
  refine ⟨.array trees, ?_, fun rest => ?_⟩
  · rw [Json.normal, Json.normalItems_eq_map, hnormal]
  · rw [List.append_assoc, readTree_of_head (hhead.yields_array _), readTreeOf,
      if_neg (Nat.succ_ne_zero room), readInside, hmany]
    rfl

lemma readAs_object {head body : List UInt8} {parts : List (String × List UInt8 × Json)}
    {entries : List (String × Json)} (hhead : Forms.map.Holds head parts.length)
    (hbody : EntriesPacked body (parts.map fun p => (p.1, p.2.1)))
    (hparts : ∀ p ∈ parts, ReadAs room p.2.1 p.2.2)
    (hperm : (parts.map fun p => (p.1, p.2.2)).Perm entries) (hkeys : Json.KeysIncrease entries) :
    ReadAs (room + 1) (head ++ body) (.object entries) := by
  have hnamed : ∀ p ∈ parts, ∃ t : String × Json, p.1 = t.1 ∧ t.2.normal = p.2.2 ∧
      Yields (readTree room) p.2.1 t.2 := by
    intro p hp
    obtain ⟨tree, hnormal, hyields⟩ := hparts p hp
    exact ⟨(p.1, tree), rfl, hnormal, hyields⟩
  obtain ⟨trees, htrees⟩ := exists_forall₂ hnamed
  have hnormal : trees.map (fun t => (t.1, t.2.normal)) = parts.map fun p => (p.1, p.2.2) :=
    (map_eq_map_of_forall₂ htrees fun p t ht => by rw [ht.1, ht.2.1]).symm
  have hentries : Yields (readEntries room (readTree room) parts.length) body trees := by
    have hsame : List.Forall₂ (SameEntry (readTree room)) (parts.map fun p => (p.1, p.2.1))
        trees := by
      rw [List.forall₂_map_left_iff]
      exact htrees.imp fun p t ht => ⟨ht.1, ht.2.2⟩
    have h := yields_entries hbody hsame room
    rwa [List.length_map] at h
  refine ⟨.object trees, ?_, fun rest => ?_⟩
  · rw [Json.normal, Json.normalEntries_eq_map, hnormal, Json.ofEntries,
      Json.sortEntries_of_perm hperm hkeys]
  · rw [List.append_assoc, readTree_of_head (hhead.yields_map _), readTreeOf,
      if_neg (Nat.succ_ne_zero room), Nat.add_sub_cancel, readInside, hentries]
    rfl

end Reading

/-- Whatever form a value has, it is read as the value where there is room for its nesting. -/
theorem readAs_of_packed {j : Json} (h : ValuePacked bytes j) {room : Nat}
    (hcanonical : j.IsCanonical) (hdepth : j.depth ≤ room) : ReadAs room bytes j := by
  induction h generalizing room with
  | null => exact readAs_of_head yields_nil rfl fun rest => rfl
  | bool b => exact readAs_of_head (yields_bool b) rfl fun rest => rfl
  | integer hn => exact readAs_integer hn
  | double x =>
    exact readAs_of_head (yields_float x) rfl fun rest => by
      rw [readTreeOf, Binary64.ofBits?_bits, floatValue]
  | single hx =>
    exact readAs_of_head (yields_single _) rfl fun rest => by rw [readTreeOf, hx, floatValue]
  | string hs => exact readAs_string hs
  | @array head parts hhead _ ih =>
    obtain ⟨room, rfl, hdepths⟩ := Json.exists_level_of_array hdepth
    cases hcanonical with
    | array hitems =>
      refine readAs_array hhead fun p hp => ?_
      have hmem : p.2 ∈ parts.map (·.2) := List.mem_map.mpr ⟨p, hp, rfl⟩
      exact ih p hp (hitems _ hmem) (hdepths _ hmem)
  | @object head body parts entries hhead hbody _ hperm ih =>
    obtain ⟨room, rfl, hdepths⟩ := Json.exists_level_of_object hdepth
    cases hcanonical with
    | object hkeys hvalues =>
      refine readAs_object hhead hbody (fun p hp => ?_) hperm hkeys
      have hmem : (p.1, p.2.2) ∈ entries := hperm.mem_iff.mp (List.mem_map.mpr ⟨p, hp, rfl⟩)
      exact ih p hp (hvalues _ hmem) (hdepths _ hmem)

/-! ### Skipping -/

/-- Wherever bytes stand, they are passed over, up to the last one. -/
def Skips (skip : List UInt8 → Except DecodeError (List UInt8)) (bytes : List UInt8) : Prop :=
  ∀ rest, skip (bytes ++ rest) = .ok rest

/-- Skips a value one level further in, if there is a level left. -/
def skipInside : Nat → Option (List UInt8 → Except DecodeError (List UInt8))
  | 0 => none
  | room + 1 => some (skipValue room)

lemma skipValue_of_head {room : Nat} {rest : List UInt8} {head : Head}
    (h : readHead bytes = .ok (head, rest)) :
    skipValue room bytes = skipValueOf (skipInside room) head rest := by
  cases room <;> rw [skipValue, h] <;> rfl

lemma skips_of_head {room : Nat} {head : Head} (hhead : Yields readHead bytes head)
    (hskip : ∀ rest, skipValueOf (skipInside room) head rest = .ok rest) :
    Skips (skipValue room) bytes := by
  intro rest
  rw [skipValue_of_head (hhead rest), hskip]

lemma skips_string {s : String} (h : StringPacked bytes s) (room : Nat) :
    Skips (skipValue room) bytes := by
  intro rest
  rw [skipValue_of_head (h.readHead rest), skipValueOf, readSlice, split_append]
  rfl

section Sequences

variable {element : List UInt8 → Except DecodeError (List UInt8)}

lemma skips_many {parts : List (List UInt8)} (h : ∀ p ∈ parts, Skips element p) :
    Skips (skipMany element parts.length) parts.flatten := by
  induction parts with
  | nil => exact fun rest => rfl
  | cons p parts ih =>
    obtain ⟨hp, hparts⟩ := List.forall_mem_cons.mp h
    intro rest
    rw [List.length_cons, List.flatten_cons, List.append_assoc, skipMany, hp]
    exact ih hparts rest

/-- Keys are passed over like values. -/
lemma skips_entries {entries : List (String × List UInt8)} (h : EntriesPacked bytes entries)
    (hkeys : ∀ key name, StringPacked key name → Skips element key)
    (hvalues : ∀ e ∈ entries, Skips element e.2) :
    Skips (skipMany element (2 * entries.length)) bytes := by
  induction h with
  | nil => exact fun rest => rfl
  | @cons key value more name entries hkey _ ih =>
    obtain ⟨hvalue, hvalues⟩ := List.forall_mem_cons.mp hvalues
    intro rest
    rw [List.length_cons, Nat.mul_succ, List.append_assoc, List.append_assoc, skipMany,
      hkeys key name hkey]
    dsimp only
    rw [skipMany, hvalue]
    exact ih hvalues rest

end Sequences

/-- Whatever form a value has, it is passed over where there is room for its nesting. -/
theorem skips_of_packed {j : Json} (h : ValuePacked bytes j) {room : Nat}
    (hdepth : j.depth ≤ room) : Skips (skipValue room) bytes := by
  induction h generalizing room with
  | null => exact skips_of_head yields_nil fun rest => by cases room <;> rfl
  | bool b => exact skips_of_head (yields_bool b) fun rest => by cases room <;> rfl
  | integer hn =>
    obtain hhead | ⟨m, -, hhead⟩ := hn.yields
    · exact skips_of_head hhead fun rest => by cases room <;> rfl
    · exact skips_of_head hhead fun rest => by cases room <;> rfl
  | double x => exact skips_of_head (yields_float x) fun rest => by cases room <;> rfl
  | single _ => exact skips_of_head (yields_single _) fun rest => by cases room <;> rfl
  | string hs => exact skips_string hs room
  | @array head parts hhead _ ih =>
    obtain ⟨room, rfl, hdepths⟩ := Json.exists_level_of_array hdepth
    have hparts : ∀ p ∈ parts.map (·.1), Skips (skipValue room) p := by
      rw [List.forall_mem_map]
      exact fun p hp => ih p hp (hdepths _ (List.mem_map.mpr ⟨p, hp, rfl⟩))
    intro rest
    rw [List.append_assoc, skipValue_of_head (hhead.yields_array _), skipInside, skipValueOf]
    have hmany := skips_many hparts rest
    rwa [List.length_map] at hmany
  | @object head body parts entries hhead hbody _ hperm ih =>
    obtain ⟨room, rfl, hdepths⟩ := Json.exists_level_of_object hdepth
    have hvalues : ∀ e ∈ parts.map fun p => (p.1, p.2.1), Skips (skipValue room) e.2 := by
      rw [List.forall_mem_map]
      intro p hp
      have hmem : (p.1, p.2.2) ∈ entries := hperm.mem_iff.mp (List.mem_map.mpr ⟨p, hp, rfl⟩)
      exact ih p hp (hdepths _ hmem)
    intro rest
    rw [List.append_assoc, skipValue_of_head (hhead.yields_map _), skipInside, skipValueOf]
    have hmany := skips_entries hbody (fun _ _ hkey => skips_string hkey room) hvalues rest
    rwa [List.length_map] at hmany

/-! ### Encodings -/

namespace Forms

lemma holds_unsigned {n : Nat} (h : n < 2 ^ 64) : unsigned.Holds (encodeUnsigned n) n := by
  unfold encodeUnsigned
  split_ifs with h7 h8 h16 h32
  · have hmarker : unsigned.Holds [.ofNat (0 + n)] n := .inMarker h7
    rwa [Nat.zero_add] at hmarker
  · exact .inWord (by decide) h8
  · exact .inWord (by decide) h16
  · exact .inWord (by decide) h32
  · exact .inWord (by decide) h

lemma holds_string {n : Nat} (h : n < 2 ^ 32) : string.Holds (stringHead n) n := by
  unfold stringHead
  split_ifs with h5 h8 h16
  · exact .inMarker h5
  · exact .inWord (by decide) h8
  · exact .inWord (by decide) h16
  · exact .inWord (by decide) h

lemma holds_array {n : Nat} (h : n < 2 ^ 32) : array.Holds (arrayHead n) n := by
  unfold arrayHead
  split_ifs with h4 h16
  · exact .inMarker h4
  · exact .inWord (by decide) h16
  · exact .inWord (by decide) h

lemma holds_map {n : Nat} (h : n < 2 ^ 32) : map.Holds (mapHead n) n := by
  unfold mapHead
  split_ifs with h4 h16
  · exact .inMarker h4
  · exact .inWord (by decide) h16
  · exact .inWord (by decide) h

end Forms

/-- In two's complement, a number below zero is as far from the next power as from zero. -/
lemma packed_negative {marker : UInt8} {width bits distance : Nat}
    (hmarker : (marker, width) ∈ [(0xD0, 1), (0xD1, 2), (0xD2, 4), (0xD3, 8)])
    (hwidth : 8 * width = bits + 1) (hpos : 0 < distance) (hle : distance ≤ 2 ^ bits) :
    IntegerPacked (withWord marker width (2 ^ (bits + 1) - distance)) (-distance) := by
  have hcast : (2 : Int) ^ bits = (2 ^ bits : Nat) := by norm_cast
  have hdouble : (2 : Int) ^ (bits + 1) = 2 * (2 ^ bits : Nat) := by rw [Int.pow_succ', hcast]
  have hdouble' : 2 ^ (bits + 1) = 2 * 2 ^ bits := Nat.pow_succ'
  have hmod : (-distance : Int) % 2 ^ (8 * width) = 2 * (2 ^ bits : Nat) - distance := by
    rw [hwidth, hdouble, ← Int.add_emod_right, Int.emod_eq_of_lt (by omega) (by omega)]
    omega
  have hword : ((-distance : Int) % 2 ^ (8 * width)).toNat = 2 ^ (bits + 1) - distance := by
    rw [hmod, hdouble']
    omega
  rw [← hword]
  apply IntegerPacked.signed hmarker <;> rw [hwidth, Nat.add_sub_cancel, hcast] <;> omega

lemma packed_encodeNegative {distance : Nat} (hpos : 0 < distance) (hle : distance ≤ 2 ^ 63) :
    IntegerPacked (encodeNegative distance) (-distance) := by
  unfold encodeNegative
  split_ifs with h5 h7 h15 h31
  · exact .inMarker hpos h5
  · exact packed_negative (by decide) (show 8 * 1 = 7 + 1 from rfl) hpos h7
  · exact packed_negative (by decide) (show 8 * 2 = 15 + 1 from rfl) hpos h15
  · exact packed_negative (by decide) (show 8 * 4 = 31 + 1 from rfl) hpos h31
  · exact packed_negative (by decide) (show 8 * 8 = 63 + 1 from rfl) hpos hle

lemma packed_encodeInteger (n : WireInt) : IntegerPacked (encodeInteger n.val) n.val := by
  have hlower := n.lower
  have hupper := n.upper
  unfold encodeInteger
  split_ifs with h0
  · have hpacked := IntegerPacked.unsigned (Forms.holds_unsigned (n := n.val.toNat) (by omega))
    rwa [Int.toNat_of_nonneg h0] at hpacked
  · have hpacked : IntegerPacked (encodeNegative n.val.natAbs) (-n.val.natAbs) :=
      packed_encodeNegative (by omega) (by omega)
    rwa [show -(n.val.natAbs : Int) = n.val by omega] at hpacked

lemma packed_encodeString {s : String} (h : LengthFits s) : StringPacked (encodeString s) s :=
  .string (Forms.holds_string h)

lemma packed_encodeEntries {entries : List (String × Json)} (h : ∀ e ∈ entries, LengthFits e.1) :
    EntriesPacked (encodeEntries entries) (entries.map fun e => (e.1, encodeValue e.2)) := by
  induction entries with
  | nil => exact .nil
  | cons e entries ih =>
    obtain ⟨key, value⟩ := e
    obtain ⟨hkey, hkeys⟩ := List.forall_mem_cons.mp h
    exact .cons (packed_encodeString hkey) (ih hkeys)

/-- What a value is encoded as is one of its forms. -/
lemma packed_encodeValue {j : Json} (h : j.LengthsFit) : ValuePacked (encodeValue j) j := by
  induction h with
  | null => exact .null
  | bool b => exact .bool b
  | integer n => exact .integer (packed_encodeInteger n)
  | float x => exact .double x
  | string hs => exact .string (packed_encodeString hs)
  | @array items hlength _ ih =>
    let parts := items.map fun j => (encodeValue j, j)
    have hhead : Forms.array.Holds (arrayHead items.length) parts.length := by
      rw [List.length_map]
      exact Forms.holds_array hlength
    have hbytes : (parts.map (·.1)).flatten = encodeItems items := by
      rw [encodeItems_eq_flatMap, List.map_map]
      rfl
    have hitems : parts.map (·.2) = items := by
      rw [List.map_map]
      exact List.map_id items
    have hpacked := ValuePacked.array hhead (List.forall_mem_map.mpr ih)
    rwa [hbytes, hitems] at hpacked
  | @object entries hlength hkeys _ ih =>
    let parts := entries.map fun e => (e.1, encodeValue e.2, e.2)
    have hhead : Forms.map.Holds (mapHead entries.length) parts.length := by
      rw [List.length_map]
      exact Forms.holds_map hlength
    have hbody : EntriesPacked (encodeEntries entries) (parts.map fun p => (p.1, p.2.1)) := by
      rw [List.map_map]
      exact packed_encodeEntries hkeys
    have hentries : parts.map (fun p => (p.1, p.2.2)) = entries := by
      rw [List.map_map]
      exact List.map_id entries
    exact .object hhead hbody (List.forall_mem_map.mpr ih) (.of_eq hentries)

end MessagePack

end RuleIntake
