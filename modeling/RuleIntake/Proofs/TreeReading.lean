import Mathlib.Tactic.Common
import RuleIntake.Json.Reader

/-!
# How trees are read

The character that a value starts with decides how it is read. An array is read item by item and an
object entry by entry, and what is read behind the first ones has been separated from them.
-/

namespace RuleIntake

lemma exists_of_map_eq_ok {ε α β : Type} {f : α → β} {x : Except ε α} {b : β}
    (h : x.map f = .ok b) : ∃ a, x = .ok a ∧ f a = b := by
  cases x with
  | error e => cases h
  | ok a => exact ⟨a, rfl, Except.ok.inj h⟩

namespace Json

variable {c start after : Cursor} {next : Char} {rest : List Char}

/-! ### Looking ahead -/

lemma skipBlanks_go_skipBlanks (text : List Char) (p : Position) :
    (Cursor.skipBlanks.go text p).skipBlanks = Cursor.skipBlanks.go text p := by
  induction text generalizing p with
  | nil => rfl
  | cons c rest ih =>
    rw [Cursor.skipBlanks.go]
    split_ifs with h
    · exact ih _
    · rw [Cursor.skipBlanks, Cursor.skipBlanks.go, if_neg h]

/-- Looking ahead leaves the cursor where looking again finds the same. -/
lemma peek_peek (c : Cursor) : peek (peek c).2 = peek c := by
  have hblanks : c.skipBlanks.skipBlanks = c.skipBlanks :=
    skipBlanks_go_skipBlanks c.rest c.position
  have hpeek : (peek c).2 = c.skipBlanks := by
    simp only [peek]
    split <;> rfl
  rw [hpeek]
  simp only [peek, hblanks]

lemma rest_of_peek (h : peek c = (some (next, rest), start)) : start.rest = next :: rest := by
  simp only [peek] at h
  split at h
  · cases h
  next ahead behind hrest =>
  cases h
  exact hrest

lemma peek_of_peek {ahead : Option (Char × List Char)} (h : peek c = (ahead, start)) :
    peek start = (ahead, start) := by
  have hstart : start = (peek c).2 := by rw [h]
  rw [hstart, peek_peek, h]

lemma length_skipBlanks_go_le (text : List Char) (p : Position) :
    (Cursor.skipBlanks.go text p).rest.length ≤ text.length := by
  induction text generalizing p with
  | nil => exact Nat.le_refl _
  | cons c rest ih =>
    rw [Cursor.skipBlanks.go]
    split_ifs
    · exact Nat.le_succ_of_le (ih _)
    · exact Nat.le_refl _

/-- The character that is found takes part of the text. -/
lemma length_of_peek (h : peek c = (some (next, rest), start)) :
    rest.length + 1 ≤ c.rest.length := by
  have hstart : start = c.skipBlanks := by
    simp only [peek] at h
    split at h <;> cases h
    rfl
  have hle : c.skipBlanks.rest.length ≤ c.rest.length := length_skipBlanks_go_le c.rest c.position
  rw [← hstart, rest_of_peek h] at hle
  exact hle

lemma readTree_of_peek {ahead : Option (Char × List Char)} (h : peek c = (ahead, start))
    (depth : Nat) : readTree depth start = readTree depth c := by
  have hwith (nested : Option (Cursor → Reading Json)) :
      readTreeWith nested start = readTreeWith nested c := by
    rw [readTreeWith, readTreeWith, peek_of_peek h, h]
  cases depth with
  | zero => exact hwith none
  | succ depth => exact hwith (some (readTree depth))

/-! ### Separators -/

/-- The end of a list is found where its bracket stands. -/
lemma peek_of_closedList {first : Bool} (h : nextElement first c = .ok (.close start)) :
    ∃ rest, peek c = (some (']', rest), start) := by
  unfold nextElement at h
  split at h
  · cases h
  next ahead behind here hpeek =>
  split_ifs at h with hclose hfirst hcomma
  · cases h
    exact ⟨behind, by rw [hpeek, hclose]⟩
  · cases h
  · split at h
    · cases h
    · split_ifs at h
      · cases h
      · cases h
  · cases h

/-- The first element of a list stands at the next character, and another one behind a comma. -/
lemma peek_of_element {first : Bool} (h : nextElement first c = .ok (.element start)) :
    (first = true ∧ ∃ next rest, peek c = (some (next, rest), start) ∧ next ≠ ']') ∨
      (first = false ∧ ∃ rest comma next behind, peek c = (some (',', rest), comma) ∧
        peek (comma.advance ',' rest) = (some (next, behind), start)) := by
  unfold nextElement at h
  split at h
  · cases h
  next ahead behind here hpeek =>
  split_ifs at h with hclose hfirst hcomma
  · cases h
  · cases h
    exact .inl ⟨hfirst, ahead, behind, hpeek, hclose⟩
  · split at h
    · cases h
    next ahead' behind' here' hpeek' =>
    split_ifs at h
    · cases h
    cases h
    subst hcomma
    exact .inr ⟨by simpa using hfirst, behind, here, ahead', behind', hpeek, hpeek'⟩
  · cases h

lemma peek_of_closedObject {first : Bool} (h : nextKey first c = .ok (.close start)) :
    ∃ rest, peek c = (some ('\x7d', rest), start) := by
  unfold nextKey at h
  split at h
  · cases h
  next ahead behind here hpeek =>
  split_ifs at h with hclose hfirst hquote hcomma
  · cases h
    exact ⟨behind, by rw [hpeek, hclose]⟩
  · cases h
  · cases h
  · split at h
    · cases h
    · split_ifs at h <;> cases h
  · cases h

/-- The first key of an object stands at the next character, and another one behind a comma. -/
lemma peek_of_key {first : Bool} (h : nextKey first c = .ok (.element start)) :
    (first = true ∧ ∃ rest quote, peek c = (some ('"', rest), quote) ∧
        start = quote.advance '"' rest) ∨
      (first = false ∧ ∃ rest comma behind quote, peek c = (some (',', rest), comma) ∧
        peek (comma.advance ',' rest) = (some ('"', behind), quote) ∧
        start = quote.advance '"' behind) := by
  unfold nextKey at h
  split at h
  · cases h
  next ahead behind here hpeek =>
  split_ifs at h with hclose hfirst hquote hcomma
  · cases h
  · cases h
    subst hquote
    exact .inl ⟨hfirst, behind, here, hpeek, rfl⟩
  · cases h
  · split at h
    · cases h
    next ahead' behind' here' hpeek' =>
    split_ifs at h with hquote
    · cases h
      subst hcomma hquote
      exact .inr ⟨by simpa using hfirst, behind, here, behind', here', hpeek, hpeek', rfl⟩
    · cases h
    · cases h
  · cases h

lemma closeList_of_peek (h : peek c = (some (']', rest), start)) :
    closeList start = .ok (start.advance ']' rest) := by
  rw [closeList, peek_of_peek h]
  rfl

lemma closeObject_of_peek (h : peek c = (some ('\x7d', rest), start)) :
    closeObject start = .ok (start.advance '\x7d' rest) := by
  rw [closeObject, peek_of_peek h]
  rfl

/-! ### Items and entries -/

section Elements

variable {value : Cursor → Reading Json}

/-- The items that are read from a cursor up to the end of their array, one by one. -/
inductive ItemsRead (value : Cursor → Reading Json) :
    Bool → Cursor → List Json → Cursor → Prop
  | close {first : Bool} {c start after : Cursor} :
      nextElement first c = .ok (.close start) → closeList start = .ok after →
        ItemsRead value first c [] after
  | item {first : Bool} {c start next after : Cursor} {item : Json} {more : List Json} :
      nextElement first c = .ok (.element start) → value start = .ok (item, next) →
        ItemsRead value false next more after → ItemsRead value first c (item :: more) after

/-- The entries that are read from a cursor up to the end of their object, one by one, by a loop
that may go round so often. -/
inductive EntriesRead (value : Cursor → Reading Json) :
    Nat → Bool → Cursor → List (String × Json) → Cursor → Prop
  | close {fuel : Nat} {first : Bool} {c start after : Cursor} :
      nextKey first c = .ok (.close start) → closeObject start = .ok after →
        EntriesRead value (fuel + 1) first c [] after
  | entry {fuel : Nat} {first : Bool} {c start colon inside next after : Cursor} {key : String}
      {item : Json} {more : List (String × Json)} :
      nextKey first c = .ok (.element start) → readString start = .ok (key, colon) →
        readColon colon = .ok inside → value inside = .ok (item, next) →
          EntriesRead value fuel false next more after →
            EntriesRead value (fuel + 1) first c ((key, item) :: more) after

/-- Where an object has no entries left, its end is found. -/
lemma EntriesRead.peek_of_nil {fuel : Nat} {first : Bool}
    (h : EntriesRead value fuel first c [] after) :
    ∃ rest start, peek c = (some ('\x7d', rest), start) ∧ after = start.advance '\x7d' rest := by
  cases h with
  | @close _ _ _ start _ hnext hclose =>
    obtain ⟨rest, hpeek⟩ := peek_of_closedObject hnext
    rw [closeObject_of_peek hpeek] at hclose
    exact ⟨rest, start, hpeek, (Except.ok.inj hclose).symm⟩

/-- Another entry of an object stands behind a comma. -/
lemma EntriesRead.peek_of_cons {fuel : Nat} {e : String × Json} {more : List (String × Json)}
    (h : EntriesRead value fuel false c (e :: more) after) :
    ∃ rest start, peek c = (some (',', rest), start) := by
  cases h with
  | entry hnext =>
    obtain ⟨hfirst, -⟩ | ⟨-, rest, comma, -, -, hpeek, -⟩ := peek_of_key hnext
    · cases hfirst
    · exact ⟨rest, comma, hpeek⟩

/-- What holds of all that a reader of values reads holds of all items. -/
lemma ItemsRead.forall_mem {P : Json → Prop}
    (hvalue : ∀ c j after, value c = .ok (j, after) → P j) {first : Bool} {items : List Json}
    (h : ItemsRead value first c items after) : ∀ j ∈ items, P j := by
  induction h with
  | close => simp
  | item _ hitem _ ih => exact List.forall_mem_cons.mpr ⟨hvalue _ _ _ hitem, ih⟩

lemma EntriesRead.forall_mem {P : Json → Prop}
    (hvalue : ∀ c j after, value c = .ok (j, after) → P j) {fuel : Nat} {first : Bool}
    {entries : List (String × Json)} (h : EntriesRead value fuel first c entries after) :
    ∀ e ∈ entries, P e.2 := by
  induction h with
  | close => simp
  | entry _ _ _ hitem _ ih => exact List.forall_mem_cons.mpr ⟨hvalue _ _ _ hitem, ih⟩

lemma itemsRead_of_readItems {first : Bool} {before items : List Json} {fuel : Nat}
    (h : readItems value first before fuel c = .ok (items, after)) :
    ∃ more, items = before.reverse ++ more ∧ ItemsRead value first c more after := by
  fun_induction readItems value first before fuel c with
  | case1 => cases h
  | case2 => cases h
  | case3 first before fuel c start hnext =>
    obtain ⟨_, hclose, hend⟩ := exists_of_map_eq_ok h
    cases hend
    exact ⟨[], by simp, .close hnext hclose⟩
  | case4 => cases h
  | case5 first before fuel c start hnext item next hitem ih =>
    obtain ⟨more, rfl, hmore⟩ := ih h
    exact ⟨item :: more, by simp, .item hnext hitem hmore⟩

lemma entriesRead_of_readEntries {first : Bool} {before entries : List (String × Json)} {fuel : Nat}
    (h : readEntries value first before fuel c = .ok (entries, after)) :
    ∃ more, entries = before.reverse ++ more ∧ EntriesRead value fuel first c more after := by
  fun_induction readEntries value first before fuel c with
  | case1 => cases h
  | case2 => cases h
  | case3 first before fuel c start hnext =>
    obtain ⟨_, hclose, hend⟩ := exists_of_map_eq_ok h
    cases hend
    exact ⟨[], by simp, .close hnext hclose⟩
  | case4 => cases h
  | case5 => cases h
  | case6 => cases h
  | case7 first before fuel c start hnext key colon hkey inside hcolon item next hitem ih =>
    obtain ⟨more, rfl, hmore⟩ := ih h
    exact ⟨(key, item) :: more, by simp, .entry hnext hkey hcolon hitem hmore⟩

end Elements

/-! ### Trees -/

/-- A tree that is read at a cursor, by the character that stands there. -/
inductive TreeRead (start : Cursor) (rest : List Char) : Nat → Char → Json → Cursor → Prop
  | null {depth : Nat} {after : Cursor} :
      readWord ['u', 'l', 'l'] (start.advance 'n' rest) = .ok after →
        TreeRead start rest depth 'n' .null after
  | true {depth : Nat} {after : Cursor} :
      readWord ['r', 'u', 'e'] (start.advance 't' rest) = .ok after →
        TreeRead start rest depth 't' (.bool true) after
  | false {depth : Nat} {after : Cursor} :
      readWord ['a', 'l', 's', 'e'] (start.advance 'f' rest) = .ok after →
        TreeRead start rest depth 'f' (.bool false) after
  | number {depth : Nat} {next : Char} {n : Number} {after : Cursor} :
      (next = '-' || next.isDigit) = true → readNumber start = .ok (n, after) →
        TreeRead start rest depth next n.toJson after
  | string {depth : Nat} {s : String} {after : Cursor} :
      readString (start.advance '"' rest) = .ok (s, after) →
        TreeRead start rest depth '"' (.string s) after
  | array {depth : Nat} {items : List Json} {after : Cursor} :
      ItemsRead (readTree depth) .true (start.advance '[' rest) items after →
        TreeRead start rest (depth + 1) '[' (.array items) after
  | object {depth : Nat} {entries : List (String × Json)} {after : Cursor} :
      EntriesRead (readTree depth) (rest.length + 1) .true (start.advance '\x7b' rest) entries
          after →
        TreeRead start rest (depth + 1) '\x7b' (.object entries) after

/-- What a tree starts with says how it was read. -/
theorem treeRead_of_readTree {depth : Nat} {tree : Json}
    (h : readTree depth c = .ok (tree, after)) :
    ∃ next rest start, peek c = (some (next, rest), start) ∧
      TreeRead start rest depth next tree after := by
  obtain ⟨nested, hnested, h⟩ : ∃ nested, (∀ value, nested = some value →
      ∃ inner, depth = inner + 1 ∧ value = readTree inner) ∧
        readTreeWith nested c = .ok (tree, after) := by
    cases depth with
    | zero => exact ⟨none, by rintro value ⟨⟩, h⟩
    | succ inner => exact ⟨some (readTree inner), by rintro value ⟨⟩; exact ⟨inner, rfl, rfl⟩, h⟩
  unfold readTreeWith at h
  split at h
  · cases h
  next next rest start hpeek =>
  refine ⟨next, rest, start, hpeek, ?_⟩
  split_ifs at h with hn ht hf hnumber hquote hbracket hbrace
  · obtain ⟨_, hword, hend⟩ := exists_of_map_eq_ok h
    cases hend
    subst hn
    exact .null hword
  · obtain ⟨_, hword, hend⟩ := exists_of_map_eq_ok h
    cases hend
    subst ht
    exact .true hword
  · obtain ⟨_, hword, hend⟩ := exists_of_map_eq_ok h
    cases hend
    subst hf
    exact .false hword
  · obtain ⟨⟨n, _⟩, hn, hend⟩ := exists_of_map_eq_ok h
    cases hend
    exact .number hnumber hn
  · obtain ⟨⟨s, _⟩, hs, hend⟩ := exists_of_map_eq_ok h
    cases hend
    subst hquote
    exact .string hs
  · cases nested with
    | none => cases h
    | some value =>
      obtain ⟨inner, rfl, rfl⟩ := hnested value rfl
      obtain ⟨⟨items, _⟩, hitems, hend⟩ := exists_of_map_eq_ok h
      cases hend
      obtain ⟨more, rfl, hmore⟩ := itemsRead_of_readItems hitems
      subst hbracket
      exact .array hmore
  · cases nested with
    | none => cases h
    | some value =>
      obtain ⟨inner, rfl, rfl⟩ := hnested value rfl
      obtain ⟨⟨entries, _⟩, hentries, hend⟩ := exists_of_map_eq_ok h
      cases hend
      obtain ⟨more, rfl, hmore⟩ := entriesRead_of_readEntries hentries
      subst hbrace
      exact .object hmore
  · cases h

end Json

end RuleIntake
