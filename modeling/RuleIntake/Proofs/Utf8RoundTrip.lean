import Mathlib.Tactic.Common
import RuleIntake.Text.Utf8

/-!
# UTF-8 is read back

The bytes of a character are read as that character, whatever follows them, and so the bytes of a
text are read as that text. A text is read from no other bytes.
-/

namespace RuleIntake.Utf8

lemma toNat_ofNat {n : Nat} (h : n < 256) : (UInt8.ofNat n).toNat = n := by
  rw [UInt8.toNat_ofNat']
  omega

/-! ### Bytes given by numbers -/

lemma followers_ofNat {n : Nat} (h : n < 256) :
    followers? (.ofNat n) =
      if n < 0x80 then some 0
      else if n < 0xC2 then none
      else if n < 0xE0 then some 1
      else if n < 0xF0 then some 2
      else if n < 0xF5 then some 3
      else none := by
  simp only [followers?, UInt8.lt_iff_toNat_lt, toNat_ofNat h]
  rfl

lemma leadingBits_ofNat {n : Nat} (h : n < 256) :
    leadingBits (.ofNat n) =
      if n < 0x80 then n else if n < 0xE0 then n % 32 else if n < 0xF0 then n % 16 else n % 8 := by
  simp only [leadingBits, UInt8.lt_iff_toNat_lt, toNat_ofNat h]
  rfl

/-- The byte that carries the six bits of a digit continues a character. -/
lemma continues_digit {d : Nat} (h : d < 64) : continues (.ofNat (d + 0x80)) = true := by
  simp only [continues, UInt8.le_iff_toNat_le, toNat_ofNat (show d + 0x80 < 256 by omega),
    Bool.and_eq_true, decide_eq_true_eq]
  change 128 ≤ d + 0x80 ∧ d + 0x80 ≤ 191
  omega

lemma trailingBits_digit {d : Nat} (h : d < 64) : trailingBits (.ofNat (d + 0x80)) = d := by
  rw [trailingBits, toNat_ofNat (by omega)]
  omega

/-- A digit can follow a first byte unless one of the four special bytes rules it out. -/
lemma follows_digit {n d : Nat} (hn : n < 256) (hd : d < 64) (hE0 : n = 0xE0 → 0x20 ≤ d)
    (hED : n = 0xED → d < 0x20) (hF0 : n = 0xF0 → 0x10 ≤ d) (hF4 : n = 0xF4 → d < 0x10) :
    follows (.ofNat n) (.ofNat (d + 0x80)) = true := by
  have hc := continues_digit hd
  simp only [follows, hc, ← UInt8.toNat_inj, UInt8.le_iff_toNat_le, toNat_ofNat hn,
    toNat_ofNat (show d + 0x80 < 256 by omega), UInt8.reduceToNat]
  split_ifs with e0 e1 e2 e3
  · have := hE0 e0
    simp only [Bool.and_eq_true, decide_eq_true_eq]
    omega
  · have := hED e1
    simp only [Bool.and_eq_true, decide_eq_true_eq]
    omega
  · have := hF0 e2
    simp only [Bool.and_eq_true, decide_eq_true_eq]
    omega
  · have := hF4 e3
    simp only [Bool.and_eq_true, decide_eq_true_eq]
    omega
  · rfl

/-! ### Characters -/

variable {index : Nat} {first b c d : UInt8} {rest : List UInt8}

lemma decodeChar_one (h : followers? first = some 0) :
    decodeChar index first rest = .ok (Char.ofNat (leadingBits first), rest) := by
  simp [decodeChar, h]

lemma decodeChar_two (h : followers? first = some 1) (hb : follows first b = true) :
    decodeChar index first (b :: rest) =
      .ok (Char.ofNat (64 * leadingBits first + trailingBits b), rest) := by
  simp [decodeChar, h, hb]

lemma decodeChar_three (h : followers? first = some 2) (hb : follows first b = true)
    (hc : continues c = true) :
    decodeChar index first (b :: c :: rest) =
      .ok (Char.ofNat (64 * (64 * leadingBits first + trailingBits b) + trailingBits c),
        rest) := by
  simp [decodeChar, h, hb, hc]

lemma decodeChar_four (h : followers? first = some 3) (hb : follows first b = true)
    (hc : continues c = true) (hd : continues d = true) :
    decodeChar index first (b :: c :: d :: rest) =
      .ok (Char.ofNat (64 * (64 * (64 * leadingBits first + trailingBits b) + trailingBits c) +
        trailingBits d), rest) := by
  simp [decodeChar, h, hb, hc, hd]

/-- The bytes of a character, the first one apart, are read as the character. -/
lemma decodeChar_encoded (x : Char) (index : Nat) (rest : List UInt8) :
    ∃ first more, String.utf8EncodeChar x = first :: more ∧
      decodeChar index first (more ++ rest) = .ok (x, rest) := by
  have hvalid := x.valid
  have hx : Char.ofNat x.val.toNat = x := Char.ofNat_toNat x
  simp only [UInt32.isValidChar, Nat.isValidChar] at hvalid
  unfold String.utf8EncodeChar
  generalize x.val.toNat = v at hx hvalid
  dsimp only
  split_ifs with h1 h2 h3
  · refine ⟨_, _, rfl, ?_⟩
    have hf := followers_ofNat (show v < 256 by omega)
    rw [if_pos (by omega)] at hf
    rw [List.nil_append, decodeChar_one hf, leadingBits_ofNat (by omega), if_pos (by omega), hx]
  · refine ⟨_, _, rfl, ?_⟩
    have hf := followers_ofNat (show v / 64 % 32 + 192 < 256 by omega)
    rw [if_neg (by omega), if_neg (by omega), if_pos (by omega)] at hf
    have hb := follows_digit (show v / 64 % 32 + 192 < 256 by omega)
      (show v % 64 < 64 by omega) (by omega) (by omega) (by omega) (by omega)
    rw [List.cons_append, List.nil_append, decodeChar_two hf hb, leadingBits_ofNat (by omega),
      if_neg (by omega), if_pos (by omega), trailingBits_digit (by omega)]
    rw [show 64 * ((v / 64 % 32 + 192) % 32) + v % 64 = v by omega, hx]
  · refine ⟨_, _, rfl, ?_⟩
    have hf := followers_ofNat (show v / 4096 % 16 + 224 < 256 by omega)
    rw [if_neg (by omega), if_neg (by omega), if_neg (by omega), if_pos (by omega)] at hf
    have hb := follows_digit (show v / 4096 % 16 + 224 < 256 by omega)
      (show v / 64 % 64 < 64 by omega) (by omega) (by omega) (by omega) (by omega)
    have hc := continues_digit (show v % 64 < 64 by omega)
    rw [List.cons_append, List.cons_append, List.nil_append, decodeChar_three hf hb hc,
      leadingBits_ofNat (by omega), if_neg (by omega), if_neg (by omega), if_pos (by omega),
      trailingBits_digit (by omega), trailingBits_digit (by omega)]
    rw [show 64 * (64 * ((v / 4096 % 16 + 224) % 16) + v / 64 % 64) + v % 64 = v by omega, hx]
  · refine ⟨_, _, rfl, ?_⟩
    have hf := followers_ofNat (show v / 262144 % 8 + 240 < 256 by omega)
    rw [if_neg (by omega), if_neg (by omega), if_neg (by omega), if_neg (by omega),
      if_pos (by omega)] at hf
    have hb := follows_digit (show v / 262144 % 8 + 240 < 256 by omega)
      (show v / 4096 % 64 < 64 by omega) (by omega) (by omega) (by omega) (by omega)
    have hc := continues_digit (show v / 64 % 64 < 64 by omega)
    have hd := continues_digit (show v % 64 < 64 by omega)
    rw [List.cons_append, List.cons_append, List.cons_append, List.nil_append,
      decodeChar_four hf hb hc hd, leadingBits_ofNat (by omega), if_neg (by omega),
      if_neg (by omega), if_neg (by omega), trailingBits_digit (by omega),
      trailingBits_digit (by omega), trailingBits_digit (by omega)]
    rw [show 64 * (64 * (64 * ((v / 262144 % 8 + 240) % 8) + v / 4096 % 64) + v / 64 % 64) +
      v % 64 = v by omega, hx]

/-! ### Texts -/

lemma decodeFrom_encoded (before : List Char) (fuel index : Nat) (text : List Char)
    (h : text.length ≤ fuel) :
    decodeFrom before fuel index (text.flatMap String.utf8EncodeChar) =
      .ok (before.reverse ++ text) := by
  induction text generalizing before fuel index with
  | nil => simp [decodeFrom]
  | cons x text ih =>
    obtain ⟨first, more, he, hd⟩ :=
      decodeChar_encoded x index (text.flatMap String.utf8EncodeChar)
    obtain _ | fuel := fuel
    · simp at h
    rw [List.flatMap_cons, he, List.cons_append, decodeFrom, hd]
    dsimp only
    rw [ih _ _ _ (by simpa using h)]
    simp

lemma length_le_length_encoded (text : List Char) :
    text.length ≤ (text.flatMap String.utf8EncodeChar).length := by
  induction text with
  | nil => simp
  | cons x text ih =>
    have hx := List.length_pos_iff.mpr (String.utf8EncodeChar_ne_nil (c := x))
    rw [List.flatMap_cons, List.length_append, List.length_cons]
    omega

/-- The bytes of a text are read as the text. -/
theorem decode_encode (text : String) : decode (encode text) = .ok text := by
  rw [decode, encode, decodeFrom_encoded _ _ _ _ (length_le_length_encoded _)]
  simp [Except.map]

/-! ### Only encodings are read -/

section Image

variable {x : Char} {after : List UInt8}

/-- How many bytes follow a first byte says in which range it is. -/
lemma followers?_eq_some {n : Nat} (h : followers? first = some n) :
    (n = 0 ∧ first.toNat < 0x80) ∨ (n = 1 ∧ 0xC2 ≤ first.toNat ∧ first.toNat < 0xE0) ∨
      (n = 2 ∧ 0xE0 ≤ first.toNat ∧ first.toNat < 0xF0) ∨
      (n = 3 ∧ 0xF0 ≤ first.toNat ∧ first.toNat < 0xF5) := by
  simp only [followers?, UInt8.lt_iff_toNat_lt, UInt8.reduceToNat] at h
  split_ifs at h <;> cases h <;> omega

lemma continues_iff : continues b = true ↔ 0x80 ≤ b.toNat ∧ b.toNat ≤ 0xBF := by
  simp [continues, UInt8.le_iff_toNat_le]

/-- A second byte continues the character, and four special first bytes narrow it further. -/
lemma follows_iff : follows first b = true ↔
    0x80 ≤ b.toNat ∧ b.toNat ≤ 0xBF ∧ (first.toNat = 0xE0 → 0xA0 ≤ b.toNat) ∧
      (first.toNat = 0xED → b.toNat ≤ 0x9F) ∧ (first.toNat = 0xF0 → 0x90 ≤ b.toNat) ∧
      (first.toNat = 0xF4 → b.toNat ≤ 0x8F) := by
  simp only [follows, continues, ← UInt8.toNat_inj, UInt8.le_iff_toNat_le, UInt8.reduceToNat]
  split_ifs <;> simp only [Bool.and_eq_true, decide_eq_true_eq] <;> omega

lemma leadingBits_eq (b : UInt8) : leadingBits b =
    if b.toNat < 0x80 then b.toNat
    else if b.toNat < 0xE0 then b.toNat % 32
    else if b.toNat < 0xF0 then b.toNat % 16
    else b.toNat % 8 := by
  simp only [leadingBits, UInt8.lt_iff_toNat_lt, UInt8.reduceToNat]

lemma ofNat_eq {n : Nat} (h : n = b.toNat) : UInt8.ofNat n = b := by
  rw [h, UInt8.ofNat_toNat]

/-- The bytes of the character with a code point. -/
lemma encodeChar_ofNat {v : Nat} (hv : v.isValidChar) : String.utf8EncodeChar (Char.ofNat v) =
    if v ≤ 0x7F then [.ofNat v]
    else if v ≤ 0x7FF then [.ofNat (v / 64 % 32 + 0xC0), .ofNat (v % 64 + 0x80)]
    else if v ≤ 0xFFFF then
      [.ofNat (v / 4096 % 16 + 0xE0), .ofNat (v / 64 % 64 + 0x80), .ofNat (v % 64 + 0x80)]
    else
      [.ofNat (v / 262144 % 8 + 0xF0), .ofNat (v / 4096 % 64 + 0x80), .ofNat (v / 64 % 64 + 0x80),
        .ofNat (v % 64 + 0x80)] := by
  have hval : (Char.ofNat v).val.toNat = v := by
    rw [Char.ofNat, dif_pos hv]
    rfl
  rw [String.utf8EncodeChar, hval]

lemma encodeChar_one (h : followers? first = some 0) :
    String.utf8EncodeChar (Char.ofNat (leadingBits first)) = [first] := by
  have hrange := followers?_eq_some h
  have hfirst := leadingBits_eq first
  rw [if_pos (by omega)] at hfirst
  rw [encodeChar_ofNat (.inl (by omega)), if_pos (by omega), ofNat_eq hfirst]

lemma encodeChar_two (h : followers? first = some 1) (hb : follows first b = true) :
    String.utf8EncodeChar (Char.ofNat (64 * leadingBits first + trailingBits b)) = [first, b] := by
  have hrange := followers?_eq_some h
  have hfirst := leadingBits_eq first
  rw [follows_iff] at hb
  rw [if_neg (by omega), if_pos (by omega)] at hfirst
  rw [hfirst, trailingBits, encodeChar_ofNat (.inl (by omega)), if_neg (by omega),
    if_pos (by omega), ofNat_eq (b := first) (by omega), ofNat_eq (b := b) (by omega)]

lemma encodeChar_three (h : followers? first = some 2) (hb : follows first b = true)
    (hc : continues c = true) :
    String.utf8EncodeChar (Char.ofNat (64 * (64 * leadingBits first + trailingBits b) +
      trailingBits c)) = [first, b, c] := by
  have hrange := followers?_eq_some h
  have hfirst := leadingBits_eq first
  rw [follows_iff] at hb
  rw [continues_iff] at hc
  rw [if_neg (by omega), if_neg (by omega), if_pos (by omega)] at hfirst
  have hv : Nat.isValidChar (64 * (64 * (first.toNat % 16) + b.toNat % 64) + c.toNat % 64) := by
    unfold Nat.isValidChar
    omega
  rw [hfirst, trailingBits, trailingBits, encodeChar_ofNat hv, if_neg (by omega),
    if_neg (by omega), if_pos (by omega), ofNat_eq (b := first) (by omega),
    ofNat_eq (b := b) (by omega), ofNat_eq (b := c) (by omega)]

lemma encodeChar_four (h : followers? first = some 3) (hb : follows first b = true)
    (hc : continues c = true) (hd : continues d = true) :
    String.utf8EncodeChar (Char.ofNat (64 * (64 * (64 * leadingBits first + trailingBits b) +
      trailingBits c) + trailingBits d)) = [first, b, c, d] := by
  have hrange := followers?_eq_some h
  have hfirst := leadingBits_eq first
  rw [follows_iff] at hb
  rw [continues_iff] at hc hd
  rw [if_neg (by omega), if_neg (by omega), if_neg (by omega)] at hfirst
  have hv : Nat.isValidChar (64 * (64 * (64 * (first.toNat % 8) + b.toNat % 64) +
      c.toNat % 64) + d.toNat % 64) := by
    unfold Nat.isValidChar
    omega
  rw [hfirst, trailingBits, trailingBits, trailingBits, encodeChar_ofNat hv, if_neg (by omega),
    if_neg (by omega), if_neg (by omega), ofNat_eq (b := first) (by omega),
    ofNat_eq (b := b) (by omega), ofNat_eq (b := c) (by omega), ofNat_eq (b := d) (by omega)]

/-- A character is read only from its bytes. -/
lemma encodeChar_of_decodeChar (h : decodeChar index first rest = .ok (x, after)) :
    String.utf8EncodeChar x ++ after = first :: rest := by
  unfold decodeChar at h
  split at h
  · cases h
  · next hmore =>
    cases h
    rw [encodeChar_one hmore]
    rfl
  next more hne hmore =>
  obtain _ | ⟨b, rest⟩ := rest
  · cases h
  have hcases : more = 1 ∨ more = 2 ∨ more = 3 := by
    have hrange := followers?_eq_some hmore
    have hpos : more ≠ 0 := hne
    omega
  have hb : follows first b = true := by
    cases hb : follows first b
    · simp [hb] at h
    · rfl
  rcases hcases with rfl | rfl | rfl
  · simp only [hb, Bool.not_true, Bool.false_eq_true, if_false, if_true] at h
    cases h
    rw [encodeChar_two hmore hb]
    rfl
  · obtain _ | ⟨c, rest⟩ := rest
    · simp [hb] at h
    have hc : continues c = true := by
      cases hc : continues c
      · simp [hb, hc] at h
      · rfl
    simp only [hb, hc, Bool.not_true, Bool.false_eq_true, if_false, if_true,
      show (2 : Nat) ≠ 1 by decide] at h
    cases h
    rw [encodeChar_three hmore hb hc]
    rfl
  · obtain _ | ⟨c, _ | ⟨d, rest⟩⟩ := rest
    · simp [hb] at h
    · cases hc : continues c <;> simp [hb, hc] at h
    have hc : continues c = true := by
      cases hc : continues c
      · simp [hb, hc] at h
      · rfl
    have hd : continues d = true := by
      cases hd : continues d
      · simp [hb, hc, hd] at h
      · rfl
    simp only [hb, hc, hd, Bool.not_true, Bool.false_eq_true, if_false,
      show (3 : Nat) ≠ 1 by decide, show (3 : Nat) ≠ 2 by decide] at h
    cases h
    rw [encodeChar_four hmore hb hc hd]
    rfl

lemma flatMap_of_decodeFrom {before text : List Char} {fuel index : Nat} {bytes : List UInt8}
    (h : decodeFrom before fuel index bytes = .ok text) :
    ∃ read, text = before.reverse ++ read ∧ read.flatMap String.utf8EncodeChar = bytes := by
  fun_induction decodeFrom before fuel index bytes with
  | case1 before =>
    cases h
    exact ⟨[], by simp, rfl⟩
  | case2 => cases h
  | case3 => cases h
  | case4 before fuel index b rest x after hx ih =>
    obtain ⟨read, rfl, rfl⟩ := ih h
    refine ⟨x :: read, by simp, ?_⟩
    rw [List.flatMap_cons]
    exact encodeChar_of_decodeChar hx

/-- A text is read from no bytes but its own. -/
theorem encode_of_decode {bytes : List UInt8} {text : String} (h : decode bytes = .ok text) :
    encode text = bytes := by
  rw [decode] at h
  cases hread : decodeFrom [] bytes.length 0 bytes with
  | error e =>
    rw [hread] at h
    cases h
  | ok chars =>
    rw [hread] at h
    cases h
    obtain ⟨read, hchars, hbytes⟩ := flatMap_of_decodeFrom hread
    rw [List.reverse_nil, List.nil_append] at hchars
    rw [encode, String.toList_ofList, hchars, hbytes]

end Image

end RuleIntake.Utf8
