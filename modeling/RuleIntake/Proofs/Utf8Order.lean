import Mathlib.Tactic.Common
import RuleIntake.Proofs.Utf8RoundTrip

/-!
# UTF-8 keeps order

Texts compare by their characters as their bytes do: of two characters the lesser one has the lesser
byte where their bytes first differ.
-/

namespace RuleIntake.Utf8

/-! ### Characters -/

variable {m n : Nat} {u v : List UInt8}

/-- A byte in front decides unless it is the same in both. -/
lemma ofNat_cons_lt (hm : m < 256) (hn : n < 256) (hle : m ≤ n) (h : m = n → u < v) :
    UInt8.ofNat m :: u < UInt8.ofNat n :: v := by
  rw [List.cons_lt_cons_iff, UInt8.lt_iff_toNat_lt, toNat_ofNat hm, toNat_ofNat hn]
  rcases Nat.lt_or_eq_of_le hle with hlt | rfl
  · exact .inl hlt
  · exact .inr ⟨rfl, h rfl⟩

lemma ofNat_cons_lt_of_lt (hn : n < 256) (h : m < n) :
    UInt8.ofNat m :: u < UInt8.ofNat n :: v :=
  ofNat_cons_lt (by omega) hn (by omega) (by omega)

/-- The bytes of the lesser character come first, whatever follows them. -/
lemma encodeChar_append_lt {c d : Char} (h : c < d) (u v : List UInt8) :
    String.utf8EncodeChar c ++ u < String.utf8EncodeChar d ++ v := by
  have hlt : c.val.toNat < d.val.toNat := h
  have hvalid := d.valid
  simp only [UInt32.isValidChar, Nat.isValidChar] at hvalid
  unfold String.utf8EncodeChar
  generalize c.val.toNat = m at hlt
  generalize d.val.toNat = n at hlt hvalid
  dsimp only
  -- the greater character has no fewer bytes; if it has more, its first byte is greater
  split_ifs
  any_goals omega
  all_goals simp only [List.cons_append, List.nil_append]
  · exact ofNat_cons_lt_of_lt (by omega) (by omega)
  · exact ofNat_cons_lt_of_lt (by omega) (by omega)
  · exact ofNat_cons_lt_of_lt (by omega) (by omega)
  · exact ofNat_cons_lt_of_lt (by omega) (by omega)
  · exact ofNat_cons_lt (by omega) (by omega) (by omega) fun _ =>
      ofNat_cons_lt_of_lt (by omega) (by omega)
  · exact ofNat_cons_lt_of_lt (by omega) (by omega)
  · exact ofNat_cons_lt_of_lt (by omega) (by omega)
  · exact ofNat_cons_lt (by omega) (by omega) (by omega) fun _ =>
      ofNat_cons_lt (by omega) (by omega) (by omega) fun _ =>
      ofNat_cons_lt_of_lt (by omega) (by omega)
  · exact ofNat_cons_lt_of_lt (by omega) (by omega)
  · exact ofNat_cons_lt (by omega) (by omega) (by omega) fun _ =>
      ofNat_cons_lt (by omega) (by omega) (by omega) fun _ =>
      ofNat_cons_lt (by omega) (by omega) (by omega) fun _ =>
      ofNat_cons_lt_of_lt (by omega) (by omega)

/-! ### Texts -/

lemma flatMap_encodeChar_lt {s t : List Char} (h : s < t) :
    s.flatMap String.utf8EncodeChar < t.flatMap String.utf8EncodeChar := by
  induction h with
  | @nil c t =>
    obtain ⟨first, more, hc⟩ :=
      List.exists_cons_of_ne_nil (String.utf8EncodeChar_ne_nil (c := c))
    rw [List.flatMap_nil, List.flatMap_cons, hc]
    exact List.nil_lt_cons _ _
  | cons _ ih =>
    rw [List.flatMap_cons, List.flatMap_cons]
    exact List.append_left_lt ih
  | rel h =>
    rw [List.flatMap_cons, List.flatMap_cons]
    exact encodeChar_append_lt h _ _

/-- Texts are in the order of their bytes. -/
theorem encode_le_encode {s t : String} : encode s ≤ encode t ↔ s ≤ t := by
  have hmono {s t : String} (h : s < t) : encode s < encode t :=
    flatMap_encodeChar_lt (String.lt_iff.mp h)
  constructor
  · intro hle
    rw [← String.not_lt]
    intro hlt
    exact hle (hmono hlt)
  · intro hle
    by_cases heq : s = t
    · rw [heq]
      exact List.le_refl _
    · have hlt : s < t := by
        rw [← String.not_le]
        intro hge
        exact heq (String.le_antisymm hle hge)
      exact List.le_of_lt (hmono hlt)

end RuleIntake.Utf8
