import Mathlib.Algebra.Group.Nat.Defs
import Mathlib.Tactic.Common
import RuleIntake.MessagePack.Encoder
import RuleIntake.MessagePack.Head
import RuleIntake.Proofs.Utf8RoundTrip

/-!
# Heads of MessagePack values are read back

Whatever form an integer or a length takes, the head that is written is the head that is read, and
the bytes behind it are left alone.
-/

namespace RuleIntake.MessagePack

/-! ### Words -/

lemma wordValue_append (bytes : List UInt8) (b : UInt8) :
    wordValue (bytes ++ [b]) = 256 * wordValue bytes + b.toNat := by
  simp [wordValue]

lemma wordValue_wordBytes (width n : Nat) : wordValue (wordBytes width n) = n % 256 ^ width := by
  induction width generalizing n with
  | zero => simp [wordBytes, wordValue, Nat.mod_one]
  | succ width ih =>
    rw [wordBytes, wordValue_append, ih, Utf8.toNat_ofNat (by omega), Nat.pow_succ',
      Nat.mod_mul]
    omega

lemma split_append (bytes rest : List UInt8) :
    split? bytes.length (bytes ++ rest) = some (bytes, rest) := by
  induction bytes with
  | nil => rfl
  | cons b bytes ih => simp [split?, ih]

lemma readWord_wordBytes {width n : Nat} (h : n < 256 ^ width) (rest : List UInt8) :
    readWord width (wordBytes width n ++ rest) = .ok (n, rest) := by
  have hs := split_append (wordBytes width n) rest
  rw [length_wordBytes] at hs
  rw [readWord, hs]
  simp only [wordValue_wordBytes, Nat.mod_eq_of_lt h]

/-- A marker that asks for a word, and the word. -/
lemma readHead_withWord {b : UInt8} {width n : Nat} (head : Nat → Head)
    (hb : ∀ bytes, readHeadOf (.ofByte b) bytes =
      (readWord width bytes).map fun (n, rest) => (head n, rest))
    (h : n < 256 ^ width) (rest : List UInt8) :
    readHead (withWord b width n ++ rest) = .ok (head n, rest) := by
  rw [withWord, List.cons_append, readHead, readMarker]
  dsimp only
  rw [hb, readWord_wordBytes h]
  rfl

/-- A marker that is a head by itself. -/
lemma readHead_marker {n : Nat} (marker : Marker) {head : Head} (rest : List UInt8)
    (hm : Marker.ofByte (.ofNat n) = marker) (hh : readHeadOf marker rest = .ok (head, rest)) :
    readHead ([.ofNat n] ++ rest) = .ok (head, rest) := by
  rw [List.singleton_append, readHead, readMarker]
  dsimp only
  rw [hm, hh]

/-! ### Lengths -/

lemma readHead_stringHead {length : Nat} (h : length < 2 ^ 32) (rest : List UInt8) :
    readHead (stringHead length ++ rest) = .ok (.string length, rest) := by
  unfold stringHead
  split_ifs with h5 h8 h16
  · refine readHead_marker (.smallString length) rest ?_ rfl
    simp only [Marker.ofByte, Utf8.toNat_ofNat (show 0xA0 + length < 256 by omega)]
    rw [if_neg (by omega), if_neg (by omega), if_neg (by omega), if_pos (by omega)]
    simp
  · exact readHead_withWord _ (fun _ => rfl) (by omega) rest
  · exact readHead_withWord _ (fun _ => rfl) (by omega) rest
  · exact readHead_withWord _ (fun _ => rfl) (by omega) rest

lemma readHead_arrayHead {size : Nat} (h : size < 2 ^ 32) (rest : List UInt8) :
    readHead (arrayHead size ++ rest) = .ok (.array size, rest) := by
  unfold arrayHead
  split_ifs with h4 h16
  · refine readHead_marker (.smallArray size) rest ?_ rfl
    simp only [Marker.ofByte, Utf8.toNat_ofNat (show 0x90 + size < 256 by omega)]
    rw [if_neg (by omega), if_neg (by omega), if_pos (by omega)]
    simp
  · exact readHead_withWord _ (fun _ => rfl) (by omega) rest
  · exact readHead_withWord _ (fun _ => rfl) (by omega) rest

lemma readHead_mapHead {size : Nat} (h : size < 2 ^ 32) (rest : List UInt8) :
    readHead (mapHead size ++ rest) = .ok (.map size, rest) := by
  unfold mapHead
  split_ifs with h4 h16
  · refine readHead_marker (.smallMap size) rest ?_ rfl
    simp only [Marker.ofByte, Utf8.toNat_ofNat (show 0x80 + size < 256 by omega)]
    rw [if_neg (by omega), if_pos (by omega)]
    simp
  · exact readHead_withWord _ (fun _ => rfl) (by omega) rest
  · exact readHead_withWord _ (fun _ => rfl) (by omega) rest

/-! ### Numbers -/

lemma readHead_encodeUnsigned {n : Nat} (h : n < 2 ^ 64) (rest : List UInt8) :
    readHead (encodeUnsigned n ++ rest) = .ok (.unsigned n, rest) := by
  unfold encodeUnsigned
  split_ifs with h7 h8 h16 h32
  · refine readHead_marker (.smallPositive n) rest ?_ rfl
    simp only [Marker.ofByte, Utf8.toNat_ofNat (show n < 256 by omega)]
    rw [if_pos (by omega)]
  · exact readHead_withWord _ (fun _ => rfl) (by omega) rest
  · exact readHead_withWord _ (fun _ => rfl) (by omega) rest
  · exact readHead_withWord _ (fun _ => rfl) (by omega) rest
  · exact readHead_withWord _ (fun _ => rfl) (by omega) rest

lemma signedValue_negative {bits distance : Nat} {width : Nat} (hw : 8 * width = bits + 1)
    (h0 : 0 < distance) (h : distance ≤ 2 ^ bits) :
    signedValue width (2 ^ (8 * width) - distance) = -distance := by
  have hpow : 2 ^ (bits + 1) = 2 * 2 ^ bits := Nat.pow_succ'
  rw [signedValue, hw, Nat.add_sub_cancel, if_neg (by omega)]
  have hcast : ((2 ^ (bits + 1) - distance : Nat) : Int) = 2 ^ (bits + 1) - distance := by
    rw [Int.ofNat_sub (by omega)]
    norm_cast
  omega

/-- A negative number in two's complement, behind the marker of its width. -/
lemma readHead_signedWord {b : UInt8} {width bits distance : Nat} (hw : 8 * width = bits + 1)
    (h0 : 0 < distance) (h : distance ≤ 2 ^ bits)
    (hb : ∀ bytes, readHeadOf (.ofByte b) bytes =
      (readWord width bytes).map fun (n, rest) => (.signed (signedValue width n), rest))
    (rest : List UInt8) :
    readHead (withWord b width (2 ^ (8 * width) - distance) ++ rest) =
      .ok (.signed (-distance), rest) := by
  have hlt : 2 ^ (8 * width) - distance < 256 ^ width := by
    rw [show 256 = 2 ^ 8 from rfl, ← Nat.pow_mul]
    have := Nat.two_pow_pos (8 * width)
    omega
  rw [readHead_withWord (fun n => .signed (signedValue width n)) hb hlt,
    signedValue_negative hw h0 h]

lemma readHead_encodeNegative {distance : Nat} (h0 : 0 < distance) (h : distance ≤ 2 ^ 63)
    (rest : List UInt8) :
    readHead (encodeNegative distance ++ rest) = .ok (.signed (-distance), rest) := by
  unfold encodeNegative
  split_ifs with h5 h7 h15 h31
  · refine readHead_marker (.smallNegative (-distance)) rest ?_ rfl
    simp only [Marker.ofByte, Utf8.toNat_ofNat (show 0x100 - distance < 256 by omega)]
    iterate 17 rw [if_neg (by omega)]
    congr 1
    omega
  · exact readHead_signedWord (show 8 * 1 = 7 + 1 from rfl) h0 h7 (fun _ => rfl) rest
  · exact readHead_signedWord (show 8 * 2 = 15 + 1 from rfl) h0 h15 (fun _ => rfl) rest
  · exact readHead_signedWord (show 8 * 4 = 31 + 1 from rfl) h0 h31 (fun _ => rfl) rest
  · exact readHead_signedWord (show 8 * 8 = 63 + 1 from rfl) h0 h (fun _ => rfl) rest

/-- The head that an integer has. -/
def integerHead (n : Int) : Head := if 0 ≤ n then .unsigned n.toNat else .signed n

lemma readHead_encodeInteger (n : WireInt) (rest : List UInt8) :
    readHead (encodeInteger n.val ++ rest) = .ok (integerHead n.val, rest) := by
  have hl := n.lower
  have hu := n.upper
  unfold encodeInteger integerHead
  split_ifs with h0
  · exact readHead_encodeUnsigned (by omega) rest
  · rw [readHead_encodeNegative (by omega) (by omega)]
    rw [show -(n.val.natAbs : Int) = n.val by omega]

lemma readHead_encodeFloat (x : Binary64) (rest : List UInt8) :
    readHead (encodeFloat x ++ rest) = .ok (.double x.bits, rest) := by
  rw [encodeFloat, readHead_withWord (fun n => .double (.ofNat n)) (fun _ => rfl)
    x.bits.toNat_lt]
  simp

end RuleIntake.MessagePack
