import Mathlib
import RuleIntake.Json.Literal
import RuleIntake.Json.Number
import RuleIntake.Json.Printer

/-!
# Printed literals are read back

Words, strings and integers are read back from their printed form, whatever follows them; only a
number must not be followed by what could belong to it. Strings may hold any characters, since every
character that is not printed as itself has an escape that means it.
-/

namespace RuleIntake.Json

variable {α : Type} {c : Cursor} {text tail : List Char}

/-- Wherever a text stands in front of the given tail, it is read as the given value, and reading
stops where the tail starts. -/
def Takes (read : Cursor → Reading α) (text : List Char) (a : α) (tail : List Char) : Prop :=
  ∀ c : Cursor, c.rest = text ++ tail → ∃ after, read c = .ok (a, after) ∧ after.rest = tail

lemma readWord_of_rest (word tail : List Char) {c : Cursor} (h : c.rest = word ++ tail) :
    ∃ after, readWord word c = .ok after ∧ after.rest = tail := by
  induction word generalizing c with
  | nil => exact ⟨c, rfl, h⟩
  | cons letter word ih =>
    rw [List.cons_append] at h
    rw [readWord, h]
    dsimp only
    rw [if_pos rfl]
    exact ih rfl

/-! ### Escapes -/

lemma hexDigit?_hexDigitChar : ∀ n < 16, hexDigit? (hexDigitChar n) = some n := by decide

lemma hasBytes_of_le_length {n : Nat} (h : n ≤ text.length) : hasBytes n text = true := by
  induction text generalizing n with
  | nil =>
    rw [Nat.le_zero.mp h]
    rfl
  | cons c text ih =>
    obtain _ | n := n
    · rfl
    rw [hasBytes]
    rw [List.length_cons] at h
    have hsize := c.utf8Size_pos
    exact ih (by omega)

/-- The number of a control character is read from its last two digits. -/
lemma takes_hexQuad {n : Nat} (h : n < 0x100) :
    Takes readHexQuad ['0', '0', hexDigitChar (n / 16), hexDigitChar (n % 16)] n tail := by
  intro c hc
  have hhigh : n / 16 < 16 := by omega
  have hlow : n % 16 < 16 := Nat.mod_lt n (by decide)
  have hbytes : hasBytes 4 c.rest = true := hasBytes_of_le_length (by simp [hc])
  have hvalue : 4096 * 0 + 256 * 0 + 16 * (n / 16) + n % 16 = n := by omega
  have hzero : hexDigit? '0' = some 0 := rfl
  rw [readHexQuad, if_pos hbytes, hc]
  simp only [List.cons_append, List.nil_append, hzero, hexDigit?_hexDigitChar _ hhigh,
    hexDigit?_hexDigitChar _ hlow, hvalue]
  exact ⟨_, rfl, rfl⟩

lemma takes_shortEscape {letter meant : Char} (h : shortEscape? letter = some meant) :
    Takes readEscape [letter] meant tail := by
  intro c hc
  rw [readEscape, hc]
  simp only [List.cons_append, h]
  exact ⟨_, rfl, rfl⟩

lemma takes_controlEscape {meant : Char} (h : meant.toNat < 0x20) :
    Takes readEscape ['u', '0', '0', hexDigitChar (meant.toNat / 16),
      hexDigitChar (meant.toNat % 16)] meant tail := by
  intro c hc
  have htakes : Takes readHexQuad _ meant.toNat tail :=
    takes_hexQuad (Nat.lt_of_lt_of_le h (by decide))
  obtain ⟨after, hquad, hafter⟩ := htakes (c.advance 'u' _) rfl
  have hlow : isLowSurrogate meant.toNat = false := by
    simp only [isLowSurrogate, Bool.and_eq_false_iff, decide_eq_false_iff_not]
    omega
  have hhigh : isHighSurrogate meant.toNat = false := by
    simp only [isHighSurrogate, Bool.and_eq_false_iff, decide_eq_false_iff_not]
    omega
  refine ⟨after, ?_, hafter⟩
  have hletter : shortEscape? 'u' = none := rfl
  rw [readEscape, hc]
  simp only [List.cons_append, hletter, if_true, readUnicodeEscape]
  simp only [List.cons_append] at hquad
  simp only [hquad, hlow, hhigh, Bool.false_eq_true, if_false, Char.ofNat_toNat]

/-- A character is printed as itself, or as an escape that means it. -/
lemma escapeChar_cases (c : Char) :
    (escapeChar c = [c] ∧ c ≠ '"' ∧ c ≠ '\\' ∧ ¬c.toNat < 0x20) ∨
      ∃ escape, escapeChar c = '\\' :: escape ∧ ∀ tail, Takes readEscape escape c tail := by
  unfold escapeChar
  split_ifs with hquote hbackslash hb ht hn hf hr hcontrol
  · exact .inr ⟨_, rfl, fun _ => takes_shortEscape (by rw [hquote]; rfl)⟩
  · exact .inr ⟨_, rfl, fun _ => takes_shortEscape (by rw [hbackslash]; rfl)⟩
  · exact .inr ⟨_, rfl, fun _ => takes_shortEscape (by rw [hb]; rfl)⟩
  · exact .inr ⟨_, rfl, fun _ => takes_shortEscape (by rw [ht]; rfl)⟩
  · exact .inr ⟨_, rfl, fun _ => takes_shortEscape (by rw [hn]; rfl)⟩
  · exact .inr ⟨_, rfl, fun _ => takes_shortEscape (by rw [hf]; rfl)⟩
  · exact .inr ⟨_, rfl, fun _ => takes_shortEscape (by rw [hr]; rfl)⟩
  · exact .inr ⟨_, rfl, fun _ => takes_controlEscape hcontrol⟩
  · exact .inl ⟨rfl, hquote, hbackslash, hcontrol⟩

/-! ### Strings -/

lemma length_le_escaped (chars : List Char) :
    chars.length ≤ (chars.flatMap escapeChar).length := by
  induction chars with
  | nil => exact Nat.le_refl _
  | cons c chars ih =>
    have hone : 1 ≤ (escapeChar c).length := by
      obtain ⟨hself, -⟩ | ⟨escape, hescape, -⟩ := escapeChar_cases c
      · rw [hself, List.length_singleton]
      · rw [hescape, List.length_cons]
        exact Nat.le_add_left 1 _
    rw [List.flatMap_cons, List.length_append, List.length_cons]
    omega

lemma readStringTail_of_rest (before : List Char) {chars : List Char} {fuel : Nat}
    (hfuel : chars.length < fuel)
    (h : c.rest = chars.flatMap escapeChar ++ '"' :: tail) :
    ∃ after, readStringTail before fuel c = .ok (before.reverse ++ chars, after) ∧
      after.rest = tail := by
  induction chars generalizing before fuel c with
  | nil =>
    obtain _ | fuel := fuel
    · exact absurd hfuel (Nat.not_lt_zero _)
    rw [List.flatMap_nil, List.nil_append] at h
    rw [readStringTail, h, List.append_nil]
    exact ⟨_, rfl, rfl⟩
  | cons next chars ih =>
    obtain _ | fuel := fuel
    · exact absurd hfuel (Nat.not_lt_zero _)
    have hfuel' : chars.length < fuel := Nat.lt_of_succ_lt_succ hfuel
    have hreverse : (next :: before).reverse ++ chars = before.reverse ++ next :: chars := by
      rw [List.reverse_cons, List.append_assoc, List.singleton_append]
    rw [List.flatMap_cons, List.append_assoc] at h
    obtain ⟨hself, hquote, hbackslash, hcontrol⟩ | ⟨escape, hescape, htakes⟩ :=
      escapeChar_cases next
    · rw [hself, List.singleton_append] at h
      rw [readStringTail, h]
      dsimp only
      rw [if_neg hquote, if_neg hbackslash, if_neg hcontrol, ← hreverse]
      exact ih (next :: before) hfuel' rfl
    · rw [hescape, List.cons_append] at h
      obtain ⟨behind, hread, hbehind⟩ := htakes _ (c.advance '\\' _) rfl
      rw [readStringTail, h]
      dsimp only
      rw [if_neg (by decide), if_pos rfl, hread, ← hreverse]
      exact ih (next :: before) hfuel' hbehind

/-- Behind its opening quote, any string is read back. -/
lemma takes_string (s : String) :
    Takes readString (s.toList.flatMap escapeChar ++ ['"']) s tail := by
  intro c hc
  rw [List.append_assoc, List.singleton_append] at hc
  have hfuel : s.toList.length < c.rest.length + 1 := by
    have hle := length_le_escaped s.toList
    rw [hc, List.length_append]
    omega
  obtain ⟨after, hread, hafter⟩ := readStringTail_of_rest [] hfuel hc
  refine ⟨after, ?_, hafter⟩
  rw [readString, hread]
  simp only [Except.map, List.reverse_nil, List.nil_append, String.ofList_toList]

/-! ### Integers -/

/-- What follows cannot belong to a number. -/
def EndsNumber (tail : List Char) : Prop :=
  ∀ c ∈ tail.head?, c.isDigit = false ∧ c ≠ '.' ∧ c ≠ 'e' ∧ c ≠ 'E'

lemma endsNumber_cons {c : Char} (h : c.isDigit = false ∧ c ≠ '.' ∧ c ≠ 'e' ∧ c ≠ 'E')
    (tail : List Char) : EndsNumber (c :: tail) := by
  rintro _ ⟨⟩
  exact h

/-- The values of digits. -/
def digitValues (digits : List Char) : List Nat := digits.map fun d => d.toNat - 48

lemma takeDigits_of_rest {digits : List Char} (hdigits : ∀ d ∈ digits, d.isDigit = true)
    (htail : EndsNumber tail) (h : c.rest = digits ++ tail) :
    ∃ after, c.takeDigits = (digitValues digits, after) ∧ after.rest = tail := by
  obtain ⟨rest, p⟩ := c
  change rest = digits ++ tail at h
  subst h
  rw [Cursor.takeDigits]
  induction digits generalizing p with
  | nil =>
    refine ⟨⟨tail, p⟩, ?_, rfl⟩
    obtain _ | ⟨next, tail⟩ := tail
    · rfl
    · rw [List.nil_append, Cursor.takeDigits.go, if_neg (by simp [(htail next rfl).1])]
      rfl
  | cons d digits ih =>
    obtain ⟨hd, hdigits⟩ := List.forall_mem_cons.mp hdigits
    obtain ⟨after, hgo, hafter⟩ := ih hdigits (p.after d)
    refine ⟨after, ?_, hafter⟩
    rw [List.cons_append, Cursor.takeDigits.go, if_pos hd, hgo]
    rfl

/-- Digits are all taken up if the number that they write fits. -/
lemma absorb_of_lt (digits : List Nat) {n : Nat}
    (h : digits.foldl (fun n d => 10 * n + d) n < 0x10000000000000000) :
    Number.absorb n digits = (digits.foldl (fun n d => 10 * n + d) n, []) := by
  induction digits generalizing n with
  | nil => rfl
  | cons d digits ih =>
    have hle (digits : List Nat) (m : Nat) : m ≤ digits.foldl (fun n d => 10 * n + d) m := by
      induction digits generalizing m with
      | nil => exact Nat.le_refl m
      | cons d digits ih => exact Nat.le_trans (by omega) (ih (10 * m + d))
    rw [List.foldl_cons] at h ⊢
    rw [Number.absorb, if_pos (Nat.lt_of_le_of_lt (hle digits (10 * n + d)) h), ih h]

/-- Only zero is written with a leading zero. -/
lemma toDigits_of_pos {n : Nat} (h : 0 < n) :
    ∃ d rest, Nat.toDigits 10 n = d :: rest ∧ d ≠ '0' := by
  induction n using Nat.strongRecOn with
  | _ n ih =>
    rw [Nat.toDigits_eq_if (by decide)]
    split_ifs with hn
    · refine ⟨_, [], rfl, ?_⟩
      rw [ne_eq, Nat.digitChar_eq_zero]
      omega
    · obtain ⟨d, rest, hd, hne⟩ := ih (n / 10) (by omega) (by omega)
      rw [hd]
      exact ⟨d, rest ++ [_], rfl, hne⟩

lemma isDigit_of_toDigits {n : Nat} : ∀ d ∈ Nat.toDigits 10 n, d.isDigit = true :=
  fun _ hd => Nat.isDigit_of_mem_toDigits (by decide) (by decide) hd

lemma exists_toDigits_cons (n : Nat) :
    ∃ d rest, Nat.toDigits 10 n = d :: rest ∧ d.isDigit = true := by
  obtain ⟨d, rest, hd⟩ := List.exists_cons_of_ne_nil (Nat.toDigits_ne_nil (n := n) (b := 10))
  exact ⟨d, rest, hd, isDigit_of_toDigits d (by rw [hd]; exact List.mem_cons_self)⟩

lemma takes_whole (n : Nat) (htail : EndsNumber tail) :
    Takes readWhole (Nat.toDigits 10 n) (digitValues (Nat.toDigits 10 n)) tail := by
  intro c hc
  obtain rfl | hn := Nat.eq_zero_or_pos n
  · rw [Nat.toDigits_zero, List.singleton_append] at hc
    rw [readWhole, hc]
    obtain _ | ⟨next, tail⟩ := tail
    · exact ⟨_, rfl, rfl⟩
    · simp only [(htail next rfl).1, Bool.false_eq_true, if_false]
      exact ⟨_, rfl, rfl⟩
  · obtain ⟨after, htake, hafter⟩ := takeDigits_of_rest isDigit_of_toDigits htail hc
    obtain ⟨d, rest, hd, hzero⟩ := toDigits_of_pos hn
    have hdigit : d.isDigit = true := isDigit_of_toDigits d (by rw [hd]; exact List.mem_cons_self)
    refine ⟨after, ?_, hafter⟩
    rw [← htake]
    rw [hd, List.cons_append] at hc
    unfold readWhole
    split
    · next heq => simp [hc] at heq
    · next heq =>
      rw [hc] at heq
      exact absurd (List.cons.inj heq).1 hzero
    · next heq =>
      rw [hc] at heq
      rw [← (List.cons.inj heq).1, if_pos hdigit]

lemma takes_fraction (htail : EndsNumber tail) : Takes readFraction [] none tail := by
  intro c hc
  rw [List.nil_append] at hc
  refine ⟨c, ?_, hc⟩
  unfold readFraction
  split
  · next heq =>
    rw [hc] at heq
    exact absurd rfl (htail _ (by rw [heq]; rfl)).2.1
  · rfl

lemma takes_exponent (htail : EndsNumber tail) : Takes readExponent? [] none tail := by
  intro c hc
  rw [List.nil_append] at hc
  refine ⟨c, ?_, hc⟩
  unfold readExponent?
  split
  · next heq =>
    rw [hc] at heq
    exact absurd rfl (htail _ (by rw [heq]; rfl)).2.2.1
  · next heq =>
    rw [hc] at heq
    exact absurd rfl (htail _ (by rw [heq]; rfl)).2.2.2
  · rfl

lemma foldl_digitValues (n : Nat) :
    (digitValues (Nat.toDigits 10 n)).foldl (fun n d => 10 * n + d) 0 = n := by
  rw [digitValues, List.foldl_map]
  exact Nat.ofDigitChars_ten_toDigits

lemma takes_unsigned {n : Nat} (h : n < 0x10000000000000000) (negative : Bool)
    (htail : EndsNumber tail) :
    Takes (readUnsigned negative) (Nat.toDigits 10 n) (Number.ofInteger negative n) tail := by
  intro c hc
  obtain ⟨whole, hwhole, hrest⟩ := takes_whole n htail c hc
  obtain ⟨point, hpoint, hrest⟩ := takes_fraction htail whole hrest
  obtain ⟨after, hexponent, hafter⟩ := takes_exponent htail point hrest
  have habsorb := absorb_of_lt (digitValues (Nat.toDigits 10 n)) (n := 0)
    (by rwa [foldl_digitValues])
  rw [foldl_digitValues] at habsorb
  refine ⟨after, ?_, hafter⟩
  simp only [readUnsigned, bind, Except.bind, hwhole, hpoint, hexponent, habsorb,
    Option.getD_none, Number.absorb, Option.isNone_none, List.isEmpty_nil, Bool.and_self, if_true]

/-- An integer that fits stays one. The sign is left open here: with a given one, checking the proof
would count up to the bounds. -/
lemma ofInteger_of_kept {n : WireInt} {m : Nat} {negative : Bool}
    (h : (if negative && m = 0 then none
      else WireInt.ofInt? (if negative then -m else m)) = some n) :
    Number.ofInteger negative m = .integer n := by
  unfold Number.ofInteger
  simp only [h]

lemma ofInteger_of_nat {n : WireInt} {m : Nat} (h : n.val = m) :
    Number.ofInteger false m = .integer n := by
  have hof : WireInt.ofInt? m = some n := h ▸ n.ofInt?_val
  apply ofInteger_of_kept
  simpa using hof

lemma ofInteger_of_neg {n : WireInt} {m : Nat} (h : n.val = -m) (hm : m ≠ 0) :
    Number.ofInteger true m = .integer n := by
  have hof : WireInt.ofInt? (-m) = some n := h ▸ n.ofInt?_val
  apply ofInteger_of_kept
  simpa [hm] using hof

lemma toList_toString_nat (m : Nat) : (toString (m : Int)).toList = Nat.toDigits 10 m :=
  Nat.toList_repr

lemma toList_toString_neg {m : Nat} (hm : m ≠ 0) :
    (toString (-m : Int)).toList = '-' :: Nat.toDigits 10 m := by
  obtain ⟨m, rfl⟩ := Nat.exists_eq_succ_of_ne_zero hm
  change ("-" ++ (m + 1).repr).toList = _
  rw [String.toList_append, Nat.toList_repr]
  rfl

lemma takes_nat {n : WireInt} {m : Nat} (h : n.val = m) (htail : EndsNumber tail) :
    Takes readNumber (Nat.toDigits 10 m) (.integer n) tail := by
  intro c hc
  have hm : m < 0x10000000000000000 := Int.ofNat_lt.mp (h ▸ n.upper)
  obtain ⟨after, hread, hafter⟩ := takes_unsigned hm false htail c hc
  rw [ofInteger_of_nat h] at hread
  refine ⟨after, ?_, hafter⟩
  obtain ⟨d, rest, hd, hdigit⟩ := exists_toDigits_cons m
  rw [hd, List.cons_append] at hc
  unfold readNumber
  split
  · next heq =>
    rw [hc] at heq
    rw [(List.cons.inj heq).1] at hdigit
    exact absurd hdigit (by decide)
  · exact hread

lemma takes_neg {n : WireInt} {m : Nat} (h : n.val = -m) (hm : m ≠ 0) (htail : EndsNumber tail) :
    Takes readNumber ('-' :: Nat.toDigits 10 m) (.integer n) tail := by
  intro c hc
  have hlower := n.lower
  rw [List.cons_append] at hc
  obtain ⟨after, hread, hafter⟩ :=
    takes_unsigned (n := m) (by omega) true htail (c.advance '-' _) rfl
  rw [ofInteger_of_neg h hm] at hread
  refine ⟨after, ?_, hafter⟩
  rw [readNumber, hc]
  exact hread

/-- Zero or more, or less than zero: the digits of an integer and its sign. -/
lemma toString_cases (n : WireInt) :
    (∃ m : Nat, n.val = m ∧ (toString n.val).toList = Nat.toDigits 10 m) ∨
      ∃ m : Nat, n.val = -m ∧ m ≠ 0 ∧ (toString n.val).toList = '-' :: Nat.toDigits 10 m := by
  obtain ⟨m, hm | hm⟩ := Int.eq_nat_or_neg n.val
  · exact .inl ⟨m, hm, by rw [hm, toList_toString_nat]⟩
  by_cases hne : m = 0
  · subst hne
    exact .inl ⟨0, hm, by rw [hm]; exact toList_toString_nat 0⟩
  · exact .inr ⟨m, hm, hne, by rw [hm, toList_toString_neg hne]⟩

/-- Every integer of 64 bits, signed or unsigned, is read back. -/
lemma takes_integer (n : WireInt) (htail : EndsNumber tail) :
    Takes readNumber (toString n.val).toList (.integer n) tail := by
  obtain ⟨m, hm, htext⟩ | ⟨m, hm, hne, htext⟩ := toString_cases n
  · rw [htext]
    exact takes_nat hm htail
  · rw [htext]
    exact takes_neg hm hne htail

/-- An integer starts with its sign or with a digit. -/
lemma exists_integer_cons (n : WireInt) :
    ∃ next rest, (toString n.val).toList = next :: rest ∧
      (next = '-' || next.isDigit) = true := by
  obtain ⟨m, -, htext⟩ | ⟨m, -, -, htext⟩ := toString_cases n
  · obtain ⟨d, rest, hd, hdigit⟩ := exists_toDigits_cons m
    exact ⟨d, rest, htext.trans hd, by rw [hdigit, Bool.or_true]⟩
  · exact ⟨'-', _, htext, rfl⟩

end RuleIntake.Json
