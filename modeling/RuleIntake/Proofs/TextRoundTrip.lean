import Mathlib
import RuleIntake.Proofs.JsonShape
import RuleIntake.Proofs.LiteralPrinting
import RuleIntake.Proofs.TextSkipping

/-!
# Texts are read back

The text of a value is read as the value, if no floating point number occurs in it and if it nests
no deeper than the reader may go.
-/

namespace RuleIntake.Json

variable {c : Cursor} {next : Char} {rest tail : List Char}

/-- No floating point number occurs in a value. -/
inductive IsFloatFree : Json → Prop
  | null : IsFloatFree null
  | bool (b : Bool) : IsFloatFree (bool b)
  | integer (n : WireInt) : IsFloatFree (integer n)
  | string (s : String) : IsFloatFree (string s)
  | array {items : List Json} : (∀ j ∈ items, IsFloatFree j) → IsFloatFree (array items)
  | object {entries : List (String × Json)} : (∀ e ∈ entries, IsFloatFree e.2) →
      IsFloatFree (object entries)

lemma isFloatFree_wrapped {j : Json} (h : j.IsFloatFree) (n : Nat) :
    (wrapped j n).IsFloatFree := by
  induction n with
  | zero => exact h
  | succ n ih => exact .array (by simpa using ih)

/-! ### Separators -/

/-- Whether a value can start with a character: it is no blank and ends no list. -/
def StartsValue (next : Char) : Prop := Cursor.isBlank next = false ∧ next ≠ ']'

lemma peek_of_rest (h : c.rest = next :: rest) (hblank : Cursor.isBlank next = false) :
    peek c = (some (next, rest), c) := by
  obtain ⟨text, p⟩ := c
  change text = next :: rest at h
  subst h
  simp only [peek, Cursor.skipBlanks, Cursor.skipBlanks.go, hblank, Bool.false_eq_true, if_false]

lemma nextElement_of_bracket (h : c.rest = ']' :: rest) (first : Bool) :
    nextElement first c = .ok (.close c) := by
  rw [nextElement, peek_of_rest h rfl]
  rfl

lemma nextElement_of_first (h : c.rest = next :: rest) (hnext : StartsValue next) :
    nextElement true c = .ok (.element c) := by
  rw [nextElement, peek_of_rest h hnext.1]
  simp only [if_neg hnext.2, if_true]

lemma nextElement_of_comma (h : c.rest = ',' :: next :: rest) (hnext : StartsValue next) :
    nextElement false c = .ok (.element (c.advance ',' (next :: rest))) := by
  have hbehind : (c.advance ',' (next :: rest)).rest = next :: rest := rfl
  rw [nextElement, peek_of_rest h rfl]
  dsimp only
  rw [if_neg (by decide), if_neg (by decide), if_pos rfl, peek_of_rest hbehind hnext.1]
  dsimp only
  rw [if_neg hnext.2]

lemma nextKey_of_brace (h : c.rest = '\x7d' :: rest) (first : Bool) :
    nextKey first c = .ok (.close c) := by
  rw [nextKey, peek_of_rest h rfl]
  rfl

lemma nextKey_of_first (h : c.rest = '"' :: rest) :
    nextKey true c = .ok (.element (c.advance '"' rest)) := by
  rw [nextKey, peek_of_rest h rfl]
  rfl

lemma nextKey_of_comma (h : c.rest = ',' :: '"' :: rest) :
    nextKey false c = .ok (.element ((c.advance ',' ('"' :: rest)).advance '"' rest)) := by
  have hbehind : (c.advance ',' ('"' :: rest)).rest = '"' :: rest := rfl
  rw [nextKey, peek_of_rest h rfl]
  dsimp only
  rw [if_neg (by decide), if_neg (by decide), if_pos rfl, peek_of_rest hbehind rfl]
  rfl

lemma readColon_of_rest (h : c.rest = ':' :: rest) :
    readColon c = .ok (c.advance ':' rest) := by
  rw [readColon, peek_of_rest h rfl]
  rfl

/-! ### How printed values start and what they end with -/

lemma startsValue_of_number (h : (next = '-' || next.isDigit) = true) : StartsValue next := by
  constructor
  · by_contra hblank
    simp only [Cursor.isBlank, Bool.not_eq_false, Bool.or_eq_true, decide_eq_true_eq] at hblank
    rcases hblank with ((rfl | rfl) | rfl) | rfl <;> revert h <;> decide
  · rintro rfl
    revert h
    decide

lemma exists_chars_cons {j : Json} (h : j.IsFloatFree) :
    ∃ next rest, j.chars = next :: rest ∧ StartsValue next := by
  cases h with
  | null => exact ⟨'n', ['u', 'l', 'l'], by simp [chars], rfl, by decide⟩
  | bool b =>
    cases b with
    | true => exact ⟨'t', ['r', 'u', 'e'], by simp [chars], rfl, by decide⟩
    | false => exact ⟨'f', ['a', 'l', 's', 'e'], by simp [chars], rfl, by decide⟩
  | integer n =>
    obtain ⟨next, rest, htext, hnext⟩ := exists_integer_cons n
    exact ⟨next, rest, by rw [chars, htext], startsValue_of_number hnext⟩
  | string s => exact ⟨'"', _, by rw [chars, quote, List.cons_append], rfl, by decide⟩
  | @array items _ =>
    obtain _ | ⟨item, items⟩ := items
    · exact ⟨'[', _, by rw [chars], rfl, by decide⟩
    · exact ⟨'[', _, by rw [chars, List.cons_append], rfl, by decide⟩
  | @object entries _ =>
    obtain _ | ⟨⟨key, value⟩, entries⟩ := entries
    · exact ⟨'\x7b', _, by rw [chars], rfl, by decide⟩
    · exact ⟨'\x7b', _, by rw [chars, List.cons_append, List.cons_append], rfl, by decide⟩

lemma endsNumber_itemChars (items : List Json) (tail : List Char) :
    EndsNumber (itemChars items ++ tail) := by
  cases items <;> rw [itemChars] <;> exact endsNumber_cons (by decide) _

lemma endsNumber_entryChars (entries : List (String × Json)) (tail : List Char) :
    EndsNumber (entryChars entries ++ tail) := by
  obtain _ | ⟨⟨key, value⟩, entries⟩ := entries <;> rw [entryChars] <;>
    exact endsNumber_cons (by decide) _

/-! ### Inside of arrays and objects -/

/-- The text of items up to the bracket behind them. It is told whether the first of them is the
first one of its array, since all others have a comma in front. -/
def insideArray : Bool → List Json → List Char
  | true, item :: items => item.chars ++ itemChars items
  | _, items => itemChars items

/-- The text of entries up to the brace behind them. -/
def insideObject : Bool → List (String × Json) → List Char
  | true, (key, value) :: entries => quote key ++ ':' :: (value.chars ++ entryChars entries)
  | _, entries => entryChars entries

lemma chars_array (items : List Json) :
    (Json.array items).chars = '[' :: insideArray true items := by
  cases items with
  | nil => rw [chars, insideArray, itemChars]; simp
  | cons item items => rw [chars, insideArray, List.cons_append]

lemma chars_object (entries : List (String × Json)) :
    (Json.object entries).chars = '\x7b' :: insideObject true entries := by
  cases entries with
  | nil => rw [chars, insideObject, entryChars]; simp
  | cons e entries =>
    obtain ⟨key, value⟩ := e
    rw [chars, insideObject]
    simp

lemma insideArray_nil (first : Bool) : insideArray first [] = [']'] := by
  cases first <;> rw [insideArray, itemChars] <;> simp

lemma insideObject_nil (first : Bool) : insideObject first [] = ['\x7d'] := by
  cases first <;> rw [insideObject, entryChars] <;> simp

lemma insideArray_false (items : List Json) : insideArray false items = itemChars items := by
  rw [insideArray]
  simp

lemma insideObject_false (entries : List (String × Json)) :
    insideObject false entries = entryChars entries := by
  rw [insideObject]
  simp

/-- Where an item is to come, it is found, behind a comma unless it is the first one. -/
lemma exists_nextElement {first : Bool} {item : Json} {items : List Json}
    (hfree : item.IsFloatFree) (h : c.rest = insideArray first (item :: items) ++ tail) :
    ∃ start, nextElement first c = .ok (.element start) ∧
      start.rest = item.chars ++ (itemChars items ++ tail) := by
  obtain ⟨next, rest, hchars, hnext⟩ := exists_chars_cons hfree
  cases first with
  | true =>
    have hitem : c.rest = item.chars ++ (itemChars items ++ tail) := by
      rw [h, insideArray, List.append_assoc]
    have hstart : c.rest = next :: (rest ++ (itemChars items ++ tail)) := by
      rw [hitem, hchars, List.cons_append]
    exact ⟨c, nextElement_of_first hstart hnext, hitem⟩
  | false =>
    have hcomma : c.rest = ',' :: next :: (rest ++ (itemChars items ++ tail)) := by
      rw [h, insideArray_false, itemChars, hchars]
      simp
    refine ⟨_, nextElement_of_comma hcomma hnext, ?_⟩
    rw [hchars, List.cons_append]
    rfl

/-- Where an entry is to come, its key and its colon are read, and its value stands behind. -/
lemma exists_nextValue {first : Bool} {key : String} {value : Json}
    {entries : List (String × Json)}
    (h : c.rest = insideObject first ((key, value) :: entries) ++ tail) :
    ∃ start colon inside, nextKey first c = .ok (.element start) ∧
      readString start = .ok (key, colon) ∧ readColon colon = .ok inside ∧
      inside.rest = value.chars ++ (entryChars entries ++ tail) := by
  let behind := ':' :: (value.chars ++ (entryChars entries ++ tail))
  let more := (key.toList.flatMap escapeChar ++ ['"']) ++ behind
  obtain ⟨start, hnext, hstart⟩ : ∃ start, nextKey first c = .ok (.element start) ∧
      start.rest = more := by
    cases first with
    | true =>
      have hquote : c.rest = '"' :: more := by
        rw [h, insideObject, quote]
        simp [more, behind]
      exact ⟨_, nextKey_of_first hquote, rfl⟩
    | false =>
      have hquote : c.rest = ',' :: '"' :: more := by
        rw [h, insideObject_false, entryChars, quote]
        simp [more, behind]
      exact ⟨_, nextKey_of_comma hquote, rfl⟩
  obtain ⟨colon, hkey, hcolon⟩ := takes_string key start hstart
  exact ⟨start, colon, _, hnext, hkey, readColon_of_rest hcolon, rfl⟩

/-! ### Items and entries -/

section Elements

variable {value : Cursor → Reading Json} {first : Bool} {fuel : Nat}

/-- A value is read back by the given reader where its text is followed by something else. -/
def TakenBack (value : Cursor → Reading Json) (j : Json) : Prop :=
  ∀ tail, EndsNumber tail → Takes value j.chars j tail

/-- Items are read back up to the end of their array. -/
lemma readItems_of_rest {items before : List Json}
    (hitems : ∀ j ∈ items, j.IsFloatFree ∧ TakenBack value j) (hfuel : items.length < fuel)
    (h : c.rest = insideArray first items ++ tail) :
    ∃ after, readItems value first before fuel c = .ok (before.reverse ++ items, after) ∧
      after.rest = tail := by
  induction items generalizing first before fuel c with
  | nil =>
    obtain _ | fuel := fuel
    · exact absurd hfuel (Nat.not_lt_zero _)
    have hclose : c.rest = ']' :: tail := by rw [h, insideArray_nil, List.singleton_append]
    rw [readItems, nextElement_of_bracket hclose]
    dsimp only
    rw [closeList_of_peek (peek_of_rest hclose rfl), List.append_nil]
    exact ⟨_, rfl, rfl⟩
  | cons item items ih =>
    obtain _ | fuel := fuel
    · exact absurd hfuel (Nat.not_lt_zero _)
    obtain ⟨⟨hfree, hitem⟩, hitems⟩ := List.forall_mem_cons.mp hitems
    obtain ⟨start, hnext, hstart⟩ := exists_nextElement hfree h
    obtain ⟨behind, hread, hbehind⟩ := hitem _ (endsNumber_itemChars items tail) start hstart
    have hreverse : (item :: before).reverse ++ items = before.reverse ++ item :: items := by simp
    rw [← insideArray_false] at hbehind
    simp only [readItems, hnext, hread]
    rw [← hreverse]
    exact ih hitems (Nat.lt_of_succ_lt_succ hfuel) hbehind

/-- Entries are read back up to the end of their object. -/
lemma readEntries_of_rest {entries before : List (String × Json)}
    (hentries : ∀ e ∈ entries, TakenBack value e.2) (hfuel : entries.length < fuel)
    (h : c.rest = insideObject first entries ++ tail) :
    ∃ after, readEntries value first before fuel c = .ok (before.reverse ++ entries, after) ∧
      after.rest = tail := by
  induction entries generalizing first before fuel c with
  | nil =>
    obtain _ | fuel := fuel
    · exact absurd hfuel (Nat.not_lt_zero _)
    have hclose : c.rest = '\x7d' :: tail := by rw [h, insideObject_nil, List.singleton_append]
    rw [readEntries, nextKey_of_brace hclose]
    dsimp only
    rw [closeObject_of_peek (peek_of_rest hclose rfl), List.append_nil]
    exact ⟨_, rfl, rfl⟩
  | cons e entries ih =>
    obtain ⟨key, item⟩ := e
    obtain _ | fuel := fuel
    · exact absurd hfuel (Nat.not_lt_zero _)
    obtain ⟨hitem, hentries⟩ := List.forall_mem_cons.mp hentries
    obtain ⟨start, colon, inside, hnext, hkey, hcolon, hinside⟩ := exists_nextValue h
    obtain ⟨behind, hread, hbehind⟩ := hitem _ (endsNumber_entryChars entries tail) inside hinside
    have hreverse : ((key, item) :: before).reverse ++ entries =
        before.reverse ++ (key, item) :: entries := by simp
    rw [← insideObject_false] at hbehind
    simp only [readEntries, hnext, hkey, hcolon, hread]
    rw [← hreverse]
    exact ih hentries (Nat.lt_of_succ_lt_succ hfuel) hbehind

lemma length_lt_itemChars (items : List Json) : items.length < (itemChars items).length := by
  induction items with
  | nil => exact Nat.zero_lt_one
  | cons item items ih =>
    rw [itemChars, List.length_append, List.length_cons, List.length_cons]
    omega

lemma length_lt_entryChars (entries : List (String × Json)) :
    entries.length < (entryChars entries).length := by
  induction entries with
  | nil => exact Nat.zero_lt_one
  | cons e entries ih =>
    obtain ⟨key, item⟩ := e
    simp only [entryChars, List.length_append, List.length_cons]
    omega

/-- Every item takes up a character at least. -/
lemma length_le_insideArray (items : List Json) :
    items.length ≤ (insideArray true items).length := by
  cases items with
  | nil => exact Nat.zero_le _
  | cons item items =>
    have hlt := length_lt_itemChars items
    rw [insideArray, List.length_append, List.length_cons]
    omega

lemma length_le_insideObject (entries : List (String × Json)) :
    entries.length ≤ (insideObject true entries).length := by
  cases entries with
  | nil => exact Nat.zero_le _
  | cons e entries =>
    obtain ⟨key, item⟩ := e
    have hlt := length_lt_entryChars entries
    simp only [insideObject, List.length_append, List.length_cons]
    omega

end Elements

/-! ### Values -/

section Values

variable {nested : Option (Cursor → Reading Json)}

/-- A value without items and entries is read alike at every depth. -/
lemma takes_readTree {text : List Char} {j : Json}
    (h : ∀ nested, Takes (readTreeWith nested) text j tail) (depth : Nat) :
    Takes (readTree depth) text j tail := by
  cases depth with
  | zero => exact h none
  | succ depth => exact h (some (readTree depth))

lemma takes_word {first : Char} {word : List Char} {j : Json}
    (hblank : Cursor.isBlank first = false)
    (hread : ∀ c rest, peek c = (some (first, rest), c) →
      readTreeWith nested c = (readWord word (c.advance first rest)).map fun c => (j, c)) :
    Takes (readTreeWith nested) (first :: word) j tail := by
  intro c hc
  rw [List.cons_append] at hc
  obtain ⟨after, hword, hafter⟩ := readWord_of_rest word tail (c := c.advance first _) rfl
  refine ⟨after, ?_, hafter⟩
  rw [hread c _ (peek_of_rest hc hblank), hword]
  rfl

lemma takes_null : Takes (readTreeWith nested) Json.null.chars .null tail := by
  have htext : Json.null.chars = ['n', 'u', 'l', 'l'] := by simp [chars]
  rw [htext]
  exact takes_word rfl fun c rest hpeek => by rw [readTreeWith, hpeek]; rfl

lemma takes_bool (b : Bool) : Takes (readTreeWith nested) (Json.bool b).chars (.bool b) tail := by
  cases b with
  | true =>
    have htext : (Json.bool true).chars = ['t', 'r', 'u', 'e'] := by simp [chars]
    rw [htext]
    exact takes_word rfl fun c rest hpeek => by rw [readTreeWith, hpeek]; rfl
  | false =>
    have htext : (Json.bool false).chars = ['f', 'a', 'l', 's', 'e'] := by simp [chars]
    rw [htext]
    exact takes_word rfl fun c rest hpeek => by rw [readTreeWith, hpeek]; rfl

lemma takes_integerValue (n : WireInt) (htail : EndsNumber tail) :
    Takes (readTreeWith nested) (Json.integer n).chars (.integer n) tail := by
  intro c hc
  rw [chars] at hc
  obtain ⟨after, hread, hafter⟩ := takes_integer n htail c hc
  obtain ⟨next, rest, htext, hnumber⟩ := exists_integer_cons n
  obtain ⟨hnull, htrue, hfalse, -⟩ := ne_of_startsNumber hnumber
  rw [htext, List.cons_append] at hc
  refine ⟨after, ?_, hafter⟩
  rw [readTreeWith, peek_of_rest hc (startsValue_of_number hnumber).1]
  dsimp only
  rw [if_neg hnull, if_neg htrue, if_neg hfalse, if_pos hnumber, hread]
  rfl

lemma takes_stringValue (s : String) :
    Takes (readTreeWith nested) (Json.string s).chars (.string s) tail := by
  intro c hc
  rw [chars, quote, List.cons_append, List.cons_append] at hc
  have htakes : Takes readString _ s tail := takes_string s
  obtain ⟨after, hread, hafter⟩ := htakes (c.advance '"' _) rfl
  refine ⟨after, ?_, hafter⟩
  rw [readTreeWith, peek_of_rest hc rfl]
  dsimp only
  rw [if_neg (by decide), if_neg (by decide), if_neg (by decide), if_neg (by decide), if_pos rfl,
    hread]
  rfl

/-- Where an array may be opened, its items are read, and there is fuel enough for them. -/
lemma exists_readItems (value : Cursor → Reading Json) {items : List Json}
    (h : c.rest = (Json.array items).chars ++ tail) :
    ∃ inside fuel, items.length < fuel ∧ inside.rest = insideArray true items ++ tail ∧
      readTreeWith (some value) c =
        (readItems value true [] fuel inside).map fun (items, c) => (.array items, c) := by
  rw [chars_array, List.cons_append] at h
  refine ⟨c.advance '[' _, (insideArray true items ++ tail).length + 1, ?_, rfl, ?_⟩
  · have hle := length_le_insideArray items
    rw [List.length_append]
    omega
  · rw [readTreeWith, peek_of_rest h rfl]
    rfl

/-- Where an object may be opened, its entries are read, and there is fuel enough for them. -/
lemma exists_readEntries (value : Cursor → Reading Json) {entries : List (String × Json)}
    (h : c.rest = (Json.object entries).chars ++ tail) :
    ∃ inside fuel, entries.length < fuel ∧ inside.rest = insideObject true entries ++ tail ∧
      readTreeWith (some value) c =
        (readEntries value true [] fuel inside).map fun (entries, c) => (.object entries, c) := by
  rw [chars_object, List.cons_append] at h
  refine ⟨c.advance '\x7b' _, (insideObject true entries ++ tail).length + 1, ?_, rfl, ?_⟩
  · have hle := length_le_insideObject entries
    rw [List.length_append]
    omega
  · rw [readTreeWith, peek_of_rest h rfl]
    rfl

/-- Where an array may be opened, it is read back if its items are. -/
lemma takes_array {value : Cursor → Reading Json} {items : List Json}
    (hitems : ∀ j ∈ items, j.IsFloatFree ∧ TakenBack value j) :
    Takes (readTreeWith (some value)) (Json.array items).chars (.array items) tail := by
  intro c hc
  obtain ⟨inside, fuel, hfuel, hinside, hread⟩ := exists_readItems value hc
  obtain ⟨after, hitems, hafter⟩ := readItems_of_rest hitems hfuel hinside
  exact ⟨after, by rw [hread, hitems]; rfl, hafter⟩

/-- Where an object may be opened, it is read back if the values of its entries are. -/
lemma takes_object {value : Cursor → Reading Json} {entries : List (String × Json)}
    (hentries : ∀ e ∈ entries, TakenBack value e.2) :
    Takes (readTreeWith (some value)) (Json.object entries).chars (.object entries) tail := by
  intro c hc
  obtain ⟨inside, fuel, hfuel, hinside, hread⟩ := exists_readEntries value hc
  obtain ⟨after, hentries, hafter⟩ := readEntries_of_rest hentries hfuel hinside
  exact ⟨after, by rw [hread, hentries]; rfl, hafter⟩

end Values

/-- A value without floating point numbers is read back where it nests no deeper than the reader may
go. -/
theorem takenBack_of_isFloatFree {j : Json} (hfree : j.IsFloatFree) {depth : Nat}
    (hdepth : j.depth ≤ depth) : TakenBack (readTree depth) j := by
  intro tail htail
  induction j generalizing depth tail with
  | null => exact takes_readTree (fun _ => takes_null) depth
  | bool b => exact takes_readTree (fun _ => takes_bool b) depth
  | integer n => exact takes_readTree (fun _ => takes_integerValue n htail) depth
  | float x => cases hfree
  | string s => exact takes_readTree (fun _ => takes_stringValue s) depth
  | array items ih =>
    obtain ⟨inner, rfl, hinner⟩ := exists_level_of_array hdepth
    cases hfree with
    | array hfree =>
      exact takes_array fun j hj => ⟨hfree j hj, ih j hj (hfree j hj) (hinner j hj)⟩
  | object entries ih =>
    obtain ⟨inner, rfl, hinner⟩ := exists_level_of_object hdepth
    cases hfree with
    | object hfree => exact takes_object fun e he => ih e he (hfree e he) (hinner e he)

lemma rest_ofString_text (j : Json) : (Cursor.ofString j.text).rest = j.chars :=
  String.toList_ofList

lemma parseTree_text {j : Json} (hfree : j.IsFloatFree) (hdepth : j.depth ≤ depthLimit) :
    parseTree j.text = .ok j := by
  have hrest : (Cursor.ofString j.text).rest = j.chars ++ [] := by
    rw [rest_ofString_text, List.append_nil]
  obtain ⟨after, hread, hafter⟩ :=
    takenBack_of_isFloatFree hfree hdepth [] (by rintro c ⟨⟩) _ hrest
  obtain ⟨text, p⟩ := after
  change text = [] at hafter
  subst hafter
  simp only [parseTree, bind, Except.bind, hread]
  rfl

end RuleIntake.Json
