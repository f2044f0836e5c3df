import Mathlib
import RuleIntake.Proofs.TextAgreement
import RuleIntake.Proofs.TextRoundTrip

/-!
# Texts that nest too deep

The text of a value that nests deeper than the reader may go is refused for it, wherever in the
value the level is that was one too many. A record is refused if the entry of a field is.
-/

namespace RuleIntake.Json

open Wire

variable {α β : Type} {c : Cursor} {tail : List Char}

/-- Nothing is read, since the text nests too deep. -/
def IsTooDeep (x : Reading α) : Prop := ∃ place, x = .error ⟨.tooDeep, place⟩

/-- Wherever a text stands, it is refused since it nests too deep. -/
def Refuses (read : Cursor → Reading α) (text : List Char) : Prop :=
  ∀ (c : Cursor) (tail : List Char), c.rest = text ++ tail → IsTooDeep (read c)

/-! ### Items and entries -/

section Elements

variable {value : Cursor → Reading Json} {first : Bool} {fuel : Nat}

/-- Items are refused if one of them is and those before it are read. -/
lemma readItems_refused {items before : List Json}
    (hitems : ∀ j ∈ items, j.IsFloatFree ∧ (TakenBack value j ∨ Refuses value j.chars))
    (hrefused : ∃ j ∈ items, Refuses value j.chars) (hfuel : items.length < fuel)
    (h : c.rest = insideArray first items ++ tail) :
    IsTooDeep (readItems value first before fuel c) := by
  induction items generalizing first before fuel c with
  | nil => simp at hrefused
  | cons item items ih =>
    obtain _ | fuel := fuel
    · exact absurd hfuel (Nat.not_lt_zero _)
    obtain ⟨⟨hfree, hitem⟩, hitems⟩ := List.forall_mem_cons.mp hitems
    obtain ⟨start, hnext, hstart⟩ := exists_nextElement hfree h
    by_cases hdeep : Refuses value item.chars
    · obtain ⟨place, hread⟩ := hdeep start _ hstart
      exact ⟨place, by simp only [readItems, hnext, hread]⟩
    · have hlater : ∃ j ∈ items, Refuses value j.chars :=
        ((List.exists_mem_cons_iff _ _ _).mp hrefused).resolve_left hdeep
      obtain ⟨behind, hread, hbehind⟩ :=
        hitem.resolve_right hdeep _ (endsNumber_itemChars items tail) start hstart
      rw [← insideArray_false] at hbehind
      simp only [readItems, hnext, hread]
      exact ih hitems hlater (Nat.lt_of_succ_lt_succ hfuel) hbehind

/-- Entries are refused if the value of one is and those before it are read. -/
lemma readEntries_refused {entries before : List (String × Json)}
    (hentries : ∀ e ∈ entries, TakenBack value e.2 ∨ Refuses value e.2.chars)
    (hrefused : ∃ e ∈ entries, Refuses value e.2.chars) (hfuel : entries.length < fuel)
    (h : c.rest = insideObject first entries ++ tail) :
    IsTooDeep (readEntries value first before fuel c) := by
  induction entries generalizing first before fuel c with
  | nil => simp at hrefused
  | cons e entries ih =>
    obtain ⟨key, item⟩ := e
    obtain _ | fuel := fuel
    · exact absurd hfuel (Nat.not_lt_zero _)
    obtain ⟨hitem, hentries⟩ := List.forall_mem_cons.mp hentries
    obtain ⟨start, colon, inside, hnext, hkey, hcolon, hinside⟩ := exists_nextValue h
    by_cases hdeep : Refuses value item.chars
    · obtain ⟨place, hread⟩ := hdeep inside _ hinside
      exact ⟨place, by simp only [readEntries, hnext, hkey, hcolon, hread]⟩
    · have hlater : ∃ e ∈ entries, Refuses value e.2.chars :=
        ((List.exists_mem_cons_iff _ _ _).mp hrefused).resolve_left hdeep
      obtain ⟨behind, hread, hbehind⟩ :=
        hitem.resolve_right hdeep _ (endsNumber_entryChars entries tail) inside hinside
      rw [← insideObject_false] at hbehind
      simp only [readEntries, hnext, hkey, hcolon, hread]
      exact ih hentries hlater (Nat.lt_of_succ_lt_succ hfuel) hbehind

end Elements

/-! ### Values -/

lemma refuses_array_of_none (items : List Json) :
    Refuses (readTreeWith none) (Json.array items).chars := by
  intro c tail hc
  rw [chars_array, List.cons_append] at hc
  rw [readTreeWith, peek_of_rest hc rfl]
  exact ⟨_, rfl⟩

lemma refuses_object_of_none (entries : List (String × Json)) :
    Refuses (readTreeWith none) (Json.object entries).chars := by
  intro c tail hc
  rw [chars_object, List.cons_append] at hc
  rw [readTreeWith, peek_of_rest hc rfl]
  exact ⟨_, rfl⟩

section Values

variable {value : Cursor → Reading Json}

lemma refuses_array {items : List Json}
    (hitems : ∀ j ∈ items, j.IsFloatFree ∧ (TakenBack value j ∨ Refuses value j.chars))
    (hrefused : ∃ j ∈ items, Refuses value j.chars) :
    Refuses (readTreeWith (some value)) (Json.array items).chars := by
  intro c tail hc
  obtain ⟨inside, fuel, hfuel, hinside, hread⟩ := exists_readItems value hc
  obtain ⟨place, hdeep⟩ := readItems_refused hitems hrefused hfuel hinside
  exact ⟨place, by rw [hread, hdeep]; rfl⟩

lemma refuses_object {entries : List (String × Json)}
    (hentries : ∀ e ∈ entries, TakenBack value e.2 ∨ Refuses value e.2.chars)
    (hrefused : ∃ e ∈ entries, Refuses value e.2.chars) :
    Refuses (readTreeWith (some value)) (Json.object entries).chars := by
  intro c tail hc
  obtain ⟨inside, fuel, hfuel, hinside, hread⟩ := exists_readEntries value hc
  obtain ⟨place, hdeep⟩ := readEntries_refused hentries hrefused hfuel hinside
  exact ⟨place, by rw [hread, hdeep]; rfl⟩

end Values

/-- A value without floating point numbers is refused where it nests deeper than the reader may
go. -/
theorem refuses_of_depth_lt {j : Json} (hfree : j.IsFloatFree) {depth : Nat}
    (hdepth : depth < j.depth) : Refuses (readTree depth) j.chars := by
  induction j generalizing depth with
  | null => exact absurd hdepth (Nat.not_lt_zero _)
  | bool => exact absurd hdepth (Nat.not_lt_zero _)
  | integer => exact absurd hdepth (Nat.not_lt_zero _)
  | float => exact absurd hdepth (Nat.not_lt_zero _)
  | string => exact absurd hdepth (Nat.not_lt_zero _)
  | array items ih =>
    cases hfree with
    | array hfree =>
    obtain _ | inner := depth
    · exact refuses_array_of_none items
    have hdeep : ∃ j ∈ items, inner < j.depth := by
      by_contra! hshallow
      exact absurd (itemsDepth_le.mpr hshallow) (Nat.not_le.mpr (Nat.lt_of_succ_lt_succ hdepth))
    refine refuses_array (fun j hj => ⟨hfree j hj, ?_⟩) ?_
    · rcases Nat.lt_or_ge inner j.depth with hlt | hle
      · exact .inr (ih j hj (hfree j hj) hlt)
      · exact .inl (takenBack_of_isFloatFree (hfree j hj) hle)
    · obtain ⟨j, hj, hlt⟩ := hdeep
      exact ⟨j, hj, ih j hj (hfree j hj) hlt⟩
  | object entries ih =>
    cases hfree with
    | object hfree =>
    obtain _ | inner := depth
    · exact refuses_object_of_none entries
    have hdeep : ∃ e ∈ entries, inner < e.2.depth := by
      by_contra! hshallow
      exact absurd (entriesDepth_le.mpr hshallow) (Nat.not_le.mpr (Nat.lt_of_succ_lt_succ hdepth))
    refine refuses_object (fun e he => ?_) ?_
    · rcases Nat.lt_or_ge inner e.2.depth with hlt | hle
      · exact .inr (ih e he (hfree e he) hlt)
      · exact .inl (takenBack_of_isFloatFree (hfree e he) hle)
    · obtain ⟨e, he, hlt⟩ := hdeep
      exact ⟨e, he, ih e he (hfree e he) hlt⟩

/-! ### Fields -/

section Fields

variable {fields : List (Field TextDecoder α)} {depth : Nat} {key : String}

/-- The text of an entry is read into the field of its key. -/
def FieldTakes (fields : List (Field TextDecoder α)) (depth : Nat) (e : String × Json) : Prop :=
  ∃ field put, fields.find? (·.name == e.1) = some field ∧
    ∀ tail, EndsNumber tail → Takes (field.read depth) e.2.chars put tail

/-- The field of its key refuses the text of an entry. -/
def FieldRefuses (fields : List (Field TextDecoder α)) (depth : Nat) (e : String × Json) : Prop :=
  ∃ field, fields.find? (·.name == e.1) = some field ∧ Refuses (field.read depth) e.2.chars

/-- A field reads the text of what its decoder takes from the value. -/
lemma fieldTakes_of {d : TextDecoder β} {d' : Decoder β} {put : β → α → α} {j : Json} {b : β}
    (hfind : fields.find? (·.name == key) = some (.of key d put)) (h : Agree d d')
    (htaken : TakenBack (readTree depth) j) (hkeys : j.RepeatsNoKey) (hd : d' j.normal = .ok b) :
    FieldTakes fields depth (key, j) := by
  refine ⟨_, put b, hfind, fun tail htail c hc => ?_⟩
  obtain ⟨after, htree, hafter⟩ := htaken tail htail c hc
  obtain ⟨a, ha, ha'⟩ | ⟨e, m, -, hm⟩ := (h depth c j after htree hkeys).cases
  · rw [ha'] at hd
    cases hd
    refine ⟨after, ?_, hafter⟩
    change (d depth c).map _ = _
    rw [ha]
    rfl
  · rw [hm] at hd
    cases hd

lemma fieldRefuses_of {d : TextDecoder β} {put : β → α → α} {j : Json}
    (hfind : fields.find? (·.name == key) = some (.of key d put))
    (h : Refuses (d depth) j.chars) : FieldRefuses fields depth (key, j) := by
  refine ⟨_, hfind, fun c tail hc => ?_⟩
  obtain ⟨place, hread⟩ := h c tail hc
  refine ⟨place, ?_⟩
  change (d depth c).map _ = _
  rw [hread]
  rfl

/-- Entries of different keys are refused if the field of one refuses it and those before it are
read. -/
lemma readFields_refused {entries : List (String × Json)} (hnodup : (entries.map (·.1)).Nodup)
    (hentries : ∀ e ∈ entries, FieldTakes fields depth e ∨ FieldRefuses fields depth e)
    (hrefused : ∃ e ∈ entries, FieldRefuses fields depth e) {seen : List String}
    (hseen : ∀ e ∈ entries, e.1 ∉ seen) {first : Bool} {fuel : Nat}
    (hfuel : entries.length < fuel) (h : c.rest = insideObject first entries ++ tail) (record : α) :
    IsTooDeep (TextDecoder.readFields fields depth first seen record fuel c) := by
  induction entries generalizing first seen fuel c record with
  | nil => simp at hrefused
  | cons e entries ih =>
    obtain ⟨key, item⟩ := e
    obtain _ | fuel := fuel
    · exact absurd hfuel (Nat.not_lt_zero _)
    obtain ⟨hkey, hnodup⟩ := List.nodup_cons.mp hnodup
    obtain ⟨hentry, hentries⟩ := List.forall_mem_cons.mp hentries
    obtain ⟨hnew, hseen⟩ := List.forall_mem_cons.mp hseen
    have hunseen : seen.contains key = false := by simpa using hnew
    obtain ⟨start, colon, inside, hnext, hname, hcolon, hinside⟩ := exists_nextValue h
    by_cases hdeep : FieldRefuses fields depth (key, item)
    · obtain ⟨field, hfind, hrefuses⟩ := hdeep
      obtain ⟨place, hread⟩ := hrefuses inside _ hinside
      refine ⟨place, ?_⟩
      simp only [TextDecoder.readFields, hnext, hname, hfind, hunseen, hcolon, hread,
        Bool.false_eq_true, if_false]
    · have hlater : ∃ e ∈ entries, FieldRefuses fields depth e :=
        ((List.exists_mem_cons_iff _ _ _).mp hrefused).resolve_left hdeep
      obtain ⟨field, put, hfind, htakes⟩ := hentry.resolve_right hdeep
      obtain ⟨behind, hread, hbehind⟩ :=
        htakes _ (endsNumber_entryChars entries tail) inside hinside
      have hseen' : ∀ e ∈ entries, e.1 ∉ key :: seen := by
        intro e he hmem
        rcases List.mem_cons.mp hmem with hsame | hmem
        · exact hkey (List.mem_map.mpr ⟨e, he, hsame⟩)
        · exact hseen e he hmem
      rw [← insideObject_false] at hbehind
      simp only [TextDecoder.readFields, hnext, hname, hfind, hunseen, hcolon, hread,
        Bool.false_eq_true, if_false]
      exact ih hnodup hentries hlater hseen' (Nat.lt_of_succ_lt_succ hfuel) hbehind (put record)

/-- A record is refused if one of its fields is and those before it are read. -/
lemma refuses_record {entries : List (String × Json)} (hnodup : (entries.map (·.1)).Nodup)
    (hentries : ∀ e ∈ entries, FieldTakes fields depth e ∨ FieldRefuses fields depth e)
    (hrefused : ∃ e ∈ entries, FieldRefuses fields depth e) (name : String) (initial : α) :
    Refuses (TextDecoder.record name fields initial (depth + 1)) (Json.object entries).chars := by
  intro c tail hc
  rw [chars_object, List.cons_append] at hc
  have hfuel : entries.length < (insideObject true entries ++ tail).length + 1 := by
    have hle := length_le_insideObject entries
    rw [List.length_append]
    omega
  obtain ⟨place, hread⟩ := readFields_refused hnodup hentries hrefused
    (fun _ _ => List.not_mem_nil) hfuel (c := c.advance '\x7b' _) rfl initial
  refine ⟨place, ?_⟩
  rw [TextDecoder.record, peek_of_rest hc rfl]
  exact hread

/-- An array or object that is refused is refused too where it may be missing. -/
lemma refuses_optional {d : TextDecoder β} {j : Json} (hdepth : 0 < j.depth)
    (h : Refuses (d depth) j.chars) : Refuses (TextDecoder.optional d depth) j.chars := by
  intro c tail hc
  obtain ⟨place, hread⟩ := h c tail hc
  refine ⟨place, ?_⟩
  cases j with
  | array items =>
    rw [chars_array, List.cons_append] at hc
    rw [optional_of_ne (peek_of_rest hc rfl) (by decide), hread]
    rfl
  | object entries =>
    rw [chars_object, List.cons_append] at hc
    rw [optional_of_ne (peek_of_rest hc rfl) (by decide), hread]
    rfl
  | _ => exact absurd hdepth (Nat.not_lt_zero _)

lemma refuses_readValue {j : Json} (hfree : j.IsFloatFree) (hdepth : depth < j.depth) :
    Refuses (readValue depth) j.chars := by
  intro c tail hc
  obtain ⟨place, hread⟩ := refuses_of_depth_lt hfree hdepth c tail hc
  refine ⟨place, ?_⟩
  rw [readValue, hread]
  rfl

end Fields

end RuleIntake.Json
