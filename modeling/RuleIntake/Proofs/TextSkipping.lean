import RuleIntake.Json.Skip
import RuleIntake.Proofs.TreeReading

/-!
# Skipping what can be read

Skipping checks less than reading, so what can be read can also be skipped, and both end at the same
place. The bound that `skipValue` sets is enough: skipping a value takes at most two steps for each
character of it.
-/

namespace RuleIntake.Json

variable {c start after : Cursor} {next : Char} {rest : List Char}

/-! ### Words and strings -/

lemma length_of_readWord {word : List Char} (h : readWord word c = .ok after) :
    after.rest.length ≤ c.rest.length := by
  fun_induction readWord word c with
  | case1 c =>
    cases h
    exact Nat.le_refl _
  | case2 => cases h
  | case3 expected more c rest hrest ih =>
    have hmore : after.rest.length ≤ rest.length := ih h
    rw [hrest, List.length_cons]
    exact Nat.le_succ_of_le hmore
  | case4 => cases h

lemma length_of_readHexQuad {n : Nat} (h : readHexQuad c = .ok (n, after)) :
    after.rest.length < c.rest.length := by
  unfold readHexQuad at h
  split_ifs at h
  split at h
  next hrest =>
    split at h
    · cases h
      simp only [hrest, List.length_cons]
      omega
    · cases h
  · cases h

lemma skipEscape_of_quad {n : Nat} (hrest : c.rest = 'u' :: rest)
    (h : readHexQuad (c.advance 'u' rest) = .ok (n, after)) : skipEscape c = .ok after := by
  have hshort : shortEscape? 'u' = none := by decide
  simp only [skipEscape, hrest, hshort, Option.isSome_none, Bool.false_eq_true, if_false, if_true,
    h, Except.map]

/-- The second half of a pair of surrogates is skipped as an escape of its own. -/
lemma skipEscape_of_readLowSurrogate {low : Nat} (h : readLowSurrogate c = .ok (low, after)) :
    ∃ behind, c.rest = '\\' :: behind ∧ skipEscape (c.advance '\\' behind) = .ok after ∧
      after.rest.length < behind.length := by
  unfold readLowSurrogate at h
  split at h
  · cases h
  next behind hrest =>
    dsimp only at h
    split at h
    · cases h
    next rest =>
      split at h
      · cases h
      next n quad hquad =>
      split_ifs at h
      · cases h
        have hlength : after.rest.length < rest.length := length_of_readHexQuad hquad
        exact ⟨'u' :: rest, hrest, skipEscape_of_quad rfl hquad, Nat.lt_succ_of_lt hlength⟩
      · cases h
    · cases h
  · cases h

/-- Escapes that are read are skipped, a pair of surrogates as two escapes. -/
lemma skipEscape_of_readEscape {meant : Char} (h : readEscape c = .ok (meant, after)) :
    after.rest.length < c.rest.length ∧
      (skipEscape c = .ok after ∨
        ∃ half behind, skipEscape c = .ok half ∧ half.rest = '\\' :: behind ∧
          skipEscape (half.advance '\\' behind) = .ok after) := by
  unfold readEscape at h
  split at h
  · cases h
  next letter rest hrest =>
  have hlength : rest.length < c.rest.length := by simp [hrest]
  split at h
  next meant' hshort =>
    cases h
    refine ⟨hlength, .inl ?_⟩
    simp only [skipEscape, hrest, hshort, Option.isSome_some, if_true]
  next hshort =>
  split_ifs at h with hletter
  · subst hletter
    unfold readUnicodeEscape at h
    split at h
    · cases h
    next n half hquad =>
    have hhalf : half.rest.length < rest.length := length_of_readHexQuad hquad
    have hskip : skipEscape c = .ok half := skipEscape_of_quad hrest hquad
    split_ifs at h
    · cases h
    · split at h
      · cases h
      next low pair hlow =>
      obtain ⟨-, rfl⟩ := Prod.mk.inj (Except.ok.inj h)
      obtain ⟨behind, hbehind, hpair, hafter⟩ := skipEscape_of_readLowSurrogate hlow
      have hlonger : behind.length < half.rest.length := by simp [hbehind]
      exact ⟨by omega, .inr ⟨half, behind, hskip, hbehind, hpair⟩⟩
    · cases h
      exact ⟨by omega, .inl hskip⟩
  · cases h

lemma skipString_of_escape {steps : Nat} (hrest : c.rest = '\\' :: rest)
    (h : skipEscape (c.advance '\\' rest) = .ok after) :
    skipString (steps + 1) c = skipString steps after := by
  have hquote : '\\' ≠ '"' := by decide
  rw [skipString]
  simp only [hrest, if_neg hquote, if_true, h]

/-- A string that is read is skipped, whatever stands in `before`. -/
lemma skipString_of_readStringTail {before chars : List Char} {fuel : Nat}
    (h : readStringTail before fuel c = .ok (chars, after)) :
    after.rest.length < c.rest.length ∧
      ∀ steps, c.rest.length < steps → skipString steps c = .ok after := by
  fun_induction readStringTail before fuel c with
  | case1 => cases h
  | case2 => cases h
  | case3 before fuel c rest hrest =>
    cases h
    refine ⟨by simp [hrest, Cursor.advance], fun steps hsteps => ?_⟩
    obtain ⟨steps, rfl⟩ := Nat.exists_eq_succ_of_ne_zero (Nat.ne_zero_of_lt hsteps)
    simp only [skipString, hrest, if_true]
  | case4 => cases h
  | case5 before fuel c rest meant behind hrest hquote hescape ih =>
    have hlength : c.rest.length = rest.length + 1 := by rw [hrest, List.length_cons]
    obtain ⟨htail, hskip⟩ := ih h
    obtain ⟨hbehind, hone | ⟨half, more, hone, hmore, htwo⟩⟩ :=
      skipEscape_of_readEscape hescape <;> dsimp only [Cursor.advance] at hbehind
    -- what is read in one step is skipped in one step, or in two if it is a pair of surrogates
    · refine ⟨by omega, fun steps hsteps => ?_⟩
      obtain ⟨steps, rfl⟩ : ∃ k, steps = k + 1 := ⟨steps - 1, by omega⟩
      rw [skipString_of_escape hrest hone]
      exact hskip steps (by omega)
    · refine ⟨by omega, fun steps hsteps => ?_⟩
      obtain ⟨steps, rfl⟩ : ∃ k, steps = k + 2 := ⟨steps - 2, by omega⟩
      rw [skipString_of_escape hrest hone, skipString_of_escape hmore htwo]
      exact hskip steps (by omega)
  | case6 => cases h
  | case7 before fuel c next rest hrest hquote hslash hcontrol ih =>
    obtain ⟨htail, hskip⟩ := ih h
    have hlength : c.rest.length = rest.length + 1 := by rw [hrest, List.length_cons]
    dsimp only [Cursor.advance] at htail hskip
    refine ⟨by omega, fun steps hsteps => ?_⟩
    obtain ⟨steps, rfl⟩ : ∃ k, steps = k + 1 := ⟨steps - 1, by omega⟩
    rw [skipString]
    simp only [hrest, if_neg hquote, if_neg hslash, if_neg hcontrol]
    exact hskip steps (by omega)

lemma skipString_of_readString {s : String} (h : readString c = .ok (s, after)) :
    after.rest.length < c.rest.length ∧ skipString (c.rest.length + 1) c = .ok after := by
  obtain ⟨⟨chars, _⟩, htail, hend⟩ := exists_of_map_eq_ok h
  cases hend
  obtain ⟨hlength, hskip⟩ := skipString_of_readStringTail htail
  exact ⟨hlength, hskip _ (Nat.lt_succ_self _)⟩

/-! ### Numbers -/

lemma length_takeDigits_go_le (text : List Char) (p : Position) :
    (Cursor.takeDigits.go text p).2.rest.length ≤ text.length := by
  induction text generalizing p with
  | nil => exact Nat.le_refl _
  | cons c rest ih =>
    rw [Cursor.takeDigits.go]
    split_ifs
    · exact Nat.le_succ_of_le (ih _)
    · exact Nat.le_refl _

lemma length_takeDigits_le (c : Cursor) : c.takeDigits.2.rest.length ≤ c.rest.length :=
  length_takeDigits_go_le c.rest c.position

lemma length_takeDigits_lt (hrest : c.rest = next :: rest) (hdigit : next.isDigit = true) :
    c.takeDigits.2.rest.length < c.rest.length := by
  rw [Cursor.takeDigits, hrest, Cursor.takeDigits.go, if_pos hdigit]
  exact Nat.lt_succ_of_le (length_takeDigits_go_le _ _)

lemma length_of_readWhole {digits : List Nat} (h : readWhole c = .ok (digits, after)) :
    after.rest.length < c.rest.length := by
  unfold readWhole at h
  split at h
  · cases h
  next rest hrest =>
    have hone : rest.length < c.rest.length := by simp [hrest]
    split at h
    · split_ifs at h
      · cases h
      · cases h
        exact hone
    · cases h
      exact hone
  next next rest hzero hrest =>
    split_ifs at h with hdigit
    · obtain ⟨-, rfl⟩ := Prod.mk.inj (Except.ok.inj h)
      exact length_takeDigits_lt hrest hdigit
    · cases h

lemma length_of_readFraction {digits : Option (List Nat)}
    (h : readFraction c = .ok (digits, after)) : after.rest.length ≤ c.rest.length := by
  unfold readFraction at h
  split at h
  next rest hrest =>
    dsimp only at h
    split_ifs at h
    · cases h
    · cases h
    · obtain ⟨-, rfl⟩ := Prod.mk.inj (Except.ok.inj h)
      rw [hrest]
      exact Nat.le_succ_of_le (length_takeDigits_le _)
  · cases h
    exact Nat.le_refl _

lemma length_of_readExponent {e : Bool × List Nat × Position}
    (h : readExponent c = .ok (e, after)) : after.rest.length ≤ c.rest.length := by
  unfold readExponent at h
  split at h
  next negative inside hsign =>
  have hinside : inside.rest.length ≤ c.rest.length := by
    split at hsign <;> obtain ⟨-, rfl⟩ := Prod.mk.inj hsign
    next rest hrest => simp [hrest, Cursor.advance]
    next rest hrest => simp [hrest, Cursor.advance]
    · exact Nat.le_refl _
  split at h
  · cases h
  · split_ifs at h
    · obtain ⟨-, rfl⟩ := Prod.mk.inj (Except.ok.inj h)
      exact Nat.le_trans (length_takeDigits_le inside) hinside
    · cases h

lemma length_of_readExponent? {e : Option (Bool × List Nat × Position)}
    (h : readExponent? c = .ok (e, after)) : after.rest.length ≤ c.rest.length := by
  unfold readExponent? at h
  split at h
  case h_1 rest hrest | h_2 rest hrest =>
    obtain ⟨⟨e, _⟩, he, hend⟩ := exists_of_map_eq_ok h
    cases hend
    rw [hrest]
    exact Nat.le_succ_of_le (length_of_readExponent he)
  · cases h
    exact Nat.le_refl _

/-- A number is read where its parts end. -/
lemma exists_of_readUnsigned {negative : Bool} {n : Number}
    (h : readUnsigned negative c = .ok (n, after)) :
    ∃ whole point fraction place exponent, readWhole c = .ok (whole, point) ∧
      readFraction point = .ok (fraction, place) ∧
      readExponent? place = .ok (exponent, after) := by
  simp only [readUnsigned, bind, Except.bind] at h
  split at h
  · cases h
  next wholePart hwhole =>
  split at h
  · cases h
  next fractionPart hfraction =>
  split at h
  · cases h
  next exponentPart hexponent =>
  obtain ⟨exponent, behind⟩ := exponentPart
  refine ⟨_, _, _, _, exponent, hwhole, hfraction, ?_⟩
  have hend : behind = after := by
    split at h
    · split_ifs at h
      · exact (Prod.mk.inj (Except.ok.inj h)).2
      · split at h
        · exact (Prod.mk.inj (Except.ok.inj h)).2
        · cases h
    · split at h
      · split_ifs at h <;> exact (Prod.mk.inj (Except.ok.inj h)).2
      · split at h
        · exact (Prod.mk.inj (Except.ok.inj h)).2
        · cases h
  rw [hexponent, hend]

/-- What is read as a number without its sign is passed over part by part. -/
lemma skipParts_of_readUnsigned {negative : Bool} {n : Number}
    (h : readUnsigned negative c = .ok (n, after)) :
    after.rest.length < c.rest.length ∧
      (do
        let (_, c) ← readWhole c
        let (_, c) ← readFraction c
        let (_, c) ← readExponent? c
        return c : Except TextError Cursor) = .ok after := by
  obtain ⟨whole, point, fraction, place, exponent, hwhole, hfraction, hexponent⟩ :=
    exists_of_readUnsigned h
  have hpoint : point.rest.length < c.rest.length := length_of_readWhole hwhole
  have hplace : place.rest.length ≤ point.rest.length := length_of_readFraction hfraction
  have hafter : after.rest.length ≤ place.rest.length := length_of_readExponent? hexponent
  refine ⟨by omega, ?_⟩
  simp only [hwhole, hfraction, hexponent, bind, Except.bind, pure, Except.pure]

lemma skipNumber_of_readNumber {n : Number} (h : readNumber c = .ok (n, after)) :
    after.rest.length < c.rest.length ∧ skipNumber c = .ok after := by
  unfold readNumber at h
  unfold skipNumber
  split at h
  next rest hrest =>
    obtain ⟨hlength, hskip⟩ := skipParts_of_readUnsigned h
    refine ⟨?_, by simp only [hskip]⟩
    rw [hrest]
    exact Nat.lt_succ_of_lt hlength
  · obtain ⟨hlength, hskip⟩ := skipParts_of_readUnsigned h
    exact ⟨hlength, by simp only [hskip]⟩

/-! ### Scalars and keys -/

/-- Skipping from a cursor on gets behind the element that stands there, whatever is open around it,
in at most two steps for each character of the element. -/
def SkipsTo (c after : Cursor) : Prop :=
  ∃ steps, steps + 2 * after.rest.length ≤ 2 * c.rest.length ∧
    ∀ opened fuel, skipFrom opened (fuel + steps) c = skipRest opened true fuel after

lemma skipsTo_of_skipScalar (hpeek : peek c = (some (next, rest), start)) (hlist : next ≠ '[')
    (hobject : next ≠ '\x7b') (hlength : after.rest.length < c.rest.length)
    (h : skipScalar next rest start = .ok after) : SkipsTo c after := by
  refine ⟨1, by omega, fun opened fuel => ?_⟩
  simp only [skipFrom, hpeek, if_neg hlist, if_neg hobject, h]

lemma skipsTo_of_readWord {word : List Char} (hpeek : peek c = (some (next, rest), start))
    (hlist : next ≠ '[') (hobject : next ≠ '\x7b')
    (hskip : skipScalar next rest start = readWord word (start.advance next rest))
    (h : readWord word (start.advance next rest) = .ok after) : SkipsTo c after := by
  have hlength := length_of_peek hpeek
  have hend : after.rest.length ≤ rest.length := length_of_readWord h
  exact skipsTo_of_skipScalar hpeek hlist hobject (by omega) (hskip.trans h)

/-- A number starts like no other value. -/
lemma ne_of_startsNumber (h : (next = '-' || next.isDigit) = true) :
    next ≠ 'n' ∧ next ≠ 't' ∧ next ≠ 'f' ∧ next ≠ '"' ∧ next ≠ '[' ∧ next ≠ '\x7b' := by
  refine ⟨?_, ?_, ?_, ?_, ?_, ?_⟩ <;> (rintro rfl; revert h; decide)

lemma length_of_readColon (h : readColon c = .ok after) : after.rest.length < c.rest.length := by
  unfold readColon at h
  split at h
  · cases h
  next next rest start hpeek =>
  split_ifs at h
  · cases h
    exact length_of_peek hpeek
  · cases h

lemma skipKey_of_read {key : String} {colon inside : Cursor}
    (hpeek : peek c = (some ('"', rest), start))
    (hkey : readString (start.advance '"' rest) = .ok (key, colon))
    (hcolon : readColon colon = .ok inside) :
    inside.rest.length < c.rest.length ∧ skipKey c = .ok inside := by
  have hstart : rest.length + 1 ≤ c.rest.length := length_of_peek hpeek
  obtain ⟨hlength, hskip⟩ := skipString_of_readString hkey
  have hinside : inside.rest.length < colon.rest.length := length_of_readColon hcolon
  dsimp only [Cursor.advance] at hlength hskip
  refine ⟨by omega, ?_⟩
  simp only [skipKey, hpeek, if_true, Cursor.advance, hskip, hcolon]

/-! ### Brackets -/

section Brackets

variable {bracket : Bracket} {first : Bool} {inside : Cursor}

/-- Skipping from inside an open bracket gets behind the bracket that closes it. No character stands
for the step that looks for the first element. -/
def Closes (bracket : Bracket) (first : Bool) (c after : Cursor) : Prop :=
  ∃ steps, steps + 2 * after.rest.length ≤ 2 * c.rest.length + first.toNat ∧
    ∀ outer fuel, skipRest (bracket :: outer) (!first) (fuel + steps) c =
      skipRest outer true fuel after

/-- One step of skipping from inside an open bracket gets to the next value. -/
def StepsTo (bracket : Bracket) (first : Bool) (c inside : Cursor) : Prop :=
  2 * inside.rest.length + 1 ≤ 2 * c.rest.length + first.toNat ∧
    ∀ outer fuel, skipRest (bracket :: outer) (!first) (fuel + 1) c =
      skipFrom (bracket :: outer) fuel inside

lemma closes_of_peek (hpeek : peek c = (some (bracket.closing, rest), start)) :
    Closes bracket first c (start.advance bracket.closing rest) := by
  have hlength := length_of_peek hpeek
  refine ⟨1, by dsimp only [Cursor.advance]; omega, fun outer fuel => ?_⟩
  simp only [skipRest, hpeek, if_true]

lemma Closes.of_stepsTo (hstep : StepsTo bracket first c inside) {next : Cursor}
    (hvalue : SkipsTo inside next) (hmore : Closes bracket false next after) :
    Closes bracket first c after := by
  obtain ⟨hinside, hstep⟩ := hstep
  obtain ⟨inner, hinner, hvalue⟩ := hvalue
  obtain ⟨behind, hbehind, hmore⟩ := hmore
  rw [Bool.toNat_false] at hbehind
  refine ⟨behind + inner + 1, by omega, fun outer fuel => ?_⟩
  rw [← Nat.add_assoc, ← Nat.add_assoc, hstep, hvalue]
  exact hmore outer fuel

/-- An item of a list is one step away, or a place before it from which the same is read. -/
lemma exists_stepsTo_item (h : nextElement first c = .ok (.element start)) :
    ∃ inside, StepsTo .list first c inside ∧
      ∀ depth, readTree depth inside = readTree depth start := by
  rcases peek_of_element h with ⟨rfl, ahead, rest, hpeek, hopen⟩ |
    ⟨rfl, rest, comma, ahead, behind, hpeek, hbehind⟩
  · have hlength := length_of_peek hpeek
    have hstart : start.rest.length = rest.length + 1 := by simp [rest_of_peek hpeek]
    refine ⟨start, ⟨by rw [Bool.toNat_true]; omega, fun outer fuel => ?_⟩, fun depth => rfl⟩
    simp only [skipRest, hpeek, Bracket.closing, if_neg hopen, Bool.not_true, Bool.not_false,
      if_true]
  · have hlength := length_of_peek hpeek
    have hopen : ',' ≠ ']' := by decide
    refine ⟨comma.advance ',' rest, ⟨?_, fun outer fuel => ?_⟩,
      fun depth => (readTree_of_peek hbehind depth).symm⟩
    · dsimp only [Cursor.advance]
      omega
    · simp only [skipRest, hpeek, Bracket.closing, if_neg hopen, Bool.not_true, Bool.not_false,
        Bool.false_eq_true, if_false, if_true]

/-- The value of an entry is one step away, over the key and the colon. -/
lemma stepsTo_entry {key : String} {colon : Cursor} (h : nextKey first c = .ok (.element start))
    (hkey : readString start = .ok (key, colon)) (hcolon : readColon colon = .ok inside) :
    StepsTo .object first c inside := by
  rcases peek_of_key h with ⟨rfl, rest, quote, hpeek, rfl⟩ |
    ⟨rfl, rest, comma, text, quote, hpeek, hquote, rfl⟩
  · obtain ⟨hinside, hskip⟩ := skipKey_of_read (peek_of_peek hpeek) hkey hcolon
    have hlength := length_of_peek hpeek
    have hstart : quote.rest.length = rest.length + 1 := by simp [rest_of_peek hpeek]
    have hopen : '"' ≠ '\x7d' := by decide
    refine ⟨by rw [Bool.toNat_true]; omega, fun outer fuel => ?_⟩
    simp only [skipRest, hpeek, Bracket.closing, if_neg hopen, Bool.not_true, Bool.not_false,
      if_true, hskip]
  · obtain ⟨hinside, hskip⟩ := skipKey_of_read hquote hkey hcolon
    have hlength := length_of_peek hpeek
    have hopen : ',' ≠ '\x7d' := by decide
    dsimp only [Cursor.advance] at hinside
    refine ⟨by rw [Bool.toNat_false]; omega, fun outer fuel => ?_⟩
    simp only [skipRest, hpeek, Bracket.closing, if_neg hopen, Bool.not_true, Bool.not_false,
      Bool.false_eq_true, if_false, if_true, hskip]

end Brackets

section Elements

variable {depth : Nat} {first : Bool}

lemma closes_of_itemsRead
    (hvalue : ∀ c item after, readTree depth c = .ok (item, after) → SkipsTo c after)
    {items : List Json} (h : ItemsRead (readTree depth) first c items after) :
    Closes .list first c after := by
  induction h with
  | close hnext hclose =>
    obtain ⟨rest, hpeek⟩ := peek_of_closedList hnext
    rw [closeList_of_peek hpeek] at hclose
    cases hclose
    exact closes_of_peek hpeek
  | @item first c start next after item more hnext hitem hmore ih =>
    obtain ⟨inside, hstep, hread⟩ := exists_stepsTo_item hnext
    exact .of_stepsTo hstep (hvalue inside item next ((hread depth).trans hitem)) ih

lemma closes_of_entriesRead
    (hvalue : ∀ c item after, readTree depth c = .ok (item, after) → SkipsTo c after)
    {bound : Nat} {entries : List (String × Json)}
    (h : EntriesRead (readTree depth) bound first c entries after) :
    Closes .object first c after := by
  induction h with
  | close hnext hclose =>
    obtain ⟨rest, hpeek⟩ := peek_of_closedObject hnext
    rw [closeObject_of_peek hpeek] at hclose
    cases hclose
    exact closes_of_peek hpeek
  | entry hnext hkey hcolon hitem hmore ih =>
    exact .of_stepsTo (stepsTo_entry hnext hkey hcolon) (hvalue _ _ _ hitem) ih

end Elements

/-- An array or object is skipped in one step more than what it holds. -/
lemma skipsTo_of_closes {bracket : Bracket} (hpeek : peek c = (some (next, rest), start))
    (hopen : ∀ opened fuel, skipFrom opened (fuel + 1) c =
      skipRest (bracket :: opened) false fuel (start.advance next rest))
    (h : Closes bracket true (start.advance next rest) after) : SkipsTo c after := by
  have hlength := length_of_peek hpeek
  obtain ⟨steps, hsteps, hskip⟩ := h
  rw [Bool.toNat_true] at hsteps
  dsimp only [Cursor.advance] at hsteps
  refine ⟨steps + 1, by omega, fun opened fuel => ?_⟩
  rw [← Nat.add_assoc, hopen]
  exact hskip opened fuel

/-! ### Values -/

/-- What is read as a tree is skipped as a whole. -/
lemma skipsTo_of_readTree {depth : Nat} {tree : Json} (h : readTree depth c = .ok (tree, after)) :
    SkipsTo c after := by
  induction depth using Nat.strongRecOn generalizing c tree after with
  | _ depth ih =>
    obtain ⟨next, rest, start, hpeek, hread⟩ := treeRead_of_readTree h
    have hlength := length_of_peek hpeek
    cases hread with
    | null hword =>
      exact skipsTo_of_readWord hpeek (by decide) (by decide) (by simp [skipScalar]) hword
    | true hword =>
      exact skipsTo_of_readWord hpeek (by decide) (by decide) (by simp [skipScalar]) hword
    | false hword =>
      exact skipsTo_of_readWord hpeek (by decide) (by decide) (by simp [skipScalar]) hword
    | number hnumber hn =>
      obtain ⟨hend, hskip⟩ := skipNumber_of_readNumber hn
      obtain ⟨hnull, htrue, hfalse, -, hlist, hobject⟩ := ne_of_startsNumber hnumber
      have hstart : start.rest.length = rest.length + 1 := by simp [rest_of_peek hpeek]
      refine skipsTo_of_skipScalar hpeek hlist hobject (by omega) ?_
      rw [skipScalar, if_neg hnull, if_neg htrue, if_neg hfalse, if_pos hnumber, hskip]
    | string hs =>
      obtain ⟨hend, hskip⟩ := skipString_of_readString hs
      dsimp only [Cursor.advance] at hend hskip
      exact skipsTo_of_skipScalar hpeek (by decide) (by decide) (by omega)
        (by simp [skipScalar, Cursor.advance, hskip])
    | @array inner items after hitems =>
      have hcloses := closes_of_itemsRead (fun _ _ _ => ih inner (Nat.lt_succ_self inner)) hitems
      refine skipsTo_of_closes hpeek (fun opened fuel => ?_) hcloses
      simp only [skipFrom, hpeek, if_true]
    | @object inner entries after hentries =>
      have hcloses :=
        closes_of_entriesRead (fun _ _ _ => ih inner (Nat.lt_succ_self inner)) hentries
      have hbrace : '\x7b' ≠ '[' := by decide
      refine skipsTo_of_closes hpeek (fun opened fuel => ?_) hcloses
      simp only [skipFrom, hpeek, if_neg hbrace, if_true]

/-- A value that can be read can be skipped, and skipping ends at the same place. -/
theorem skipValue_of_readTree {depth : Nat} {tree : Json}
    (h : readTree depth c = .ok (tree, after)) : skipValue c = .ok after := by
  obtain ⟨steps, hsteps, hskip⟩ := skipsTo_of_readTree h
  obtain ⟨fuel, hfuel⟩ : ∃ fuel, 2 * c.rest.length + 2 = fuel + 1 + steps :=
    ⟨2 * c.rest.length + 1 - steps, by omega⟩
  rw [skipValue, hfuel, hskip, skipRest]

end RuleIntake.Json
