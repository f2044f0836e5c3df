import Mathlib
import RuleIntake.Proofs.KeyOrder
import RuleIntake.Proofs.TextSkipping
import RuleIntake.Rule.RawDocument

/-!
# Texts and the values in them

A text can be decoded while it is read, or the value that it holds can be decoded afterwards. Where
no object repeats a key, both give the same. A text that is refused can be refused at another place
and for another reason than its value, because a text is decoded in its own order and a value in key
order.
-/

namespace RuleIntake

namespace Json

open Wire

variable {α β : Type} {c start after : Cursor} {next : Char} {rest : List Char}

/-! ### Results -/

/-- A text and a value give the same, where the text ends at the given place, or both give
nothing. -/
inductive SameResult (after : Cursor) : Reading α → Except Mismatch α → Prop
  | both (a : α) : SameResult after (.ok (a, after)) (.ok a)
  | neither (e : TextError) (m : Mismatch) : SameResult after (.error e) (.error m)

lemma exists_refuse_eq_error (expected : Expectation) (next : Char) (rest : List Char)
    (c : Cursor) :
    ∃ e, (TextDecoder.refuse expected next rest c : Reading α) = .error e := by
  cases h : (TextDecoder.refuse expected next rest c : Reading α) with
  | error e => exact ⟨e, rfl⟩
  | ok result => exact absurd h (TextDecoder.refuse_ne_ok _ _ _ _ _ _)

namespace SameResult

lemma cases {x : Reading α} {y : Except Mismatch α} (h : SameResult after x y) :
    (∃ a, x = .ok (a, after) ∧ y = .ok a) ∨ ∃ e m, x = .error e ∧ y = .error m := by
  cases h with
  | both a => exact .inl ⟨a, rfl, rfl⟩
  | neither e m => exact .inr ⟨e, m, rfl, rfl⟩

lemma map {x : Reading α} {y : Except Mismatch α} (h : SameResult after x y) (f : α → β) :
    SameResult after (x.map fun (a, c) => (f a, c)) (y.map f) := by
  cases h with
  | both a => exact .both (f a)
  | neither e m => exact .neither e m

lemma of_toOption_eq {x : Reading α} {y y' : Except Mismatch α} (h : SameResult after x y)
    (heq : y.toOption = y'.toOption) : SameResult after x y' := by
  cases h with
  | both a =>
    cases y' with
    | error => cases heq
    | ok b =>
      cases heq
      exact .both a
  | neither e m =>
    cases y' with
    | error m' => exact .neither e m'
    | ok => cases heq

lemma of_refuse (expected : Expectation) (m : Mismatch) :
    SameResult after (TextDecoder.refuse expected next rest start : Reading α) (.error m) := by
  obtain ⟨e, he⟩ := exists_refuse_eq_error (α := α) expected next rest start
  rw [he]
  exact .neither e m

end SameResult

/-- Wherever a tree can be read that repeats no key, the text gives the same as the normal form of
the tree. -/
def Agree (d : TextDecoder α) (d' : Decoder α) : Prop :=
  ∀ depth c tree after, readTree depth c = .ok (tree, after) → tree.RepeatsNoKey →
    SameResult after (d depth c) (d' tree.normal)

/-! ### Plain values -/

lemma agree_map {d : TextDecoder α} {d' : Decoder α} (h : Agree d d') (f : α → β) :
    Agree (f <$> d) (f <$> d') :=
  fun depth c tree after htree hkeys => (h depth c tree after htree hkeys).map f

lemma agree_string : Agree TextDecoder.string Decoder.string := by
  intro depth c tree after htree hkeys
  obtain ⟨next, rest, start, hpeek, hread⟩ := treeRead_of_readTree htree
  simp only [TextDecoder.string, hpeek]
  cases hread with
  | string hs =>
    rw [if_pos rfl, hs]
    exact .both _
  | @number _ next n after hnumber =>
    obtain ⟨-, -, -, hquote, -, -⟩ := ne_of_startsNumber hnumber
    rw [if_neg hquote]
    cases n <;> exact .of_refuse _ _
  | _ =>
    rw [if_neg (by decide)]
    exact .of_refuse _ _

lemma agree_anyValue : Agree readValue Except.ok := by
  intro depth c tree after htree hkeys
  rw [readValue, htree]
  exact .both tree.normal

lemma optional_of_ne {d : TextDecoder α} {depth : Nat}
    (hpeek : peek c = (some (next, rest), start)) (hnull : next ≠ 'n') :
    TextDecoder.optional d depth c = (d depth start).map fun (a, c) => (some a, c) := by
  simp only [TextDecoder.optional, hpeek]
  split
  next heq =>
    cases heq
    exact absurd rfl hnull
  next heq =>
    cases heq
    rfl

lemma agree_optional {d : TextDecoder α} {d' : Decoder α} (h : Agree d d') :
    Agree (TextDecoder.optional d) (Decoder.optional d') := by
  intro depth c tree after htree hkeys
  obtain ⟨next, rest, start, hpeek, hread⟩ := treeRead_of_readTree htree
  have hsome : SameResult after ((d depth start).map fun (a, c) => (some a, c))
      ((d' tree.normal).map some) := by
    rw [← readTree_of_peek hpeek] at htree
    exact (h depth start tree after htree hkeys).map some
  cases hread with
  | null hword =>
    simp only [TextDecoder.optional, hpeek, hword]
    exact .both none
  | @number _ next n after hnumber =>
    obtain ⟨hnull, -⟩ := ne_of_startsNumber hnumber
    rw [optional_of_ne hpeek hnull]
    cases n <;> exact hsome
  | _ =>
    rw [optional_of_ne hpeek (by decide)]
    exact hsome

/-! ### Enumerations -/

/-- The word null is read as the unit, and no other value is. -/
lemma unit_of_readTree {depth : Nat} {tree : Json} (h : readTree depth c = .ok (tree, after)) :
    (tree = .null ∧ TextDecoder.unit c = .ok after) ∨
      (tree ≠ .null ∧ ∃ e, TextDecoder.unit c = .error e) := by
  obtain ⟨next, rest, start, hpeek, hread⟩ := treeRead_of_readTree h
  have hrefused (hnull : next ≠ 'n') : ∃ e, TextDecoder.unit c = .error e := by
    obtain ⟨e, he⟩ := exists_refuse_eq_error (α := Unit) .unit next rest start
    exact ⟨e, by simp only [TextDecoder.unit, hpeek, if_neg hnull, he, Except.map]⟩
  cases hread with
  | null hword =>
    refine .inl ⟨rfl, ?_⟩
    simp only [TextDecoder.unit, hpeek, if_true, hword]
  | @number _ next n after hnumber =>
    obtain ⟨hnull, -⟩ := ne_of_startsNumber hnumber
    refine .inr ⟨?_, hrefused hnull⟩
    cases n <;> simp [Number.toJson]
  | _ => exact .inr ⟨by simp, hrefused (by decide)⟩

lemma sameResult_variant (v : Variants α) (name : String) (c : Cursor) :
    SameResult c (TextDecoder.variant v name c) (Decoder.variant v name) := by
  rw [TextDecoder.variant, Decoder.variant]
  cases v.ofName? name with
  | none => exact .neither _ _
  | some a => exact .both a

/-- An object of no entry, or of several, spells no variant. -/
lemma enumeration_of_length {entries : List (String × Json)} (v : Variants α)
    (h : entries.length ≠ 1) : ∃ m, Decoder.enumeration v (.object entries) = .error m := by
  match entries with
  | [] => exact ⟨_, rfl⟩
  | [e] => exact absurd rfl h
  | e :: f :: rest => exact ⟨_, rfl⟩

/-- Behind the key and the colon of an entry, an object spells a variant if its value is null and
its end follows. -/
lemma variantEntry_of_entry {v : Variants α} {key : String} {colon inside : Cursor}
    (hpeek : peek c = (some ('"', rest), start))
    (hkey : readString (start.advance '"' rest) = .ok (key, colon))
    (hcolon : readColon colon = .ok inside) :
    TextDecoder.variantEntry v c = (TextDecoder.variant v key colon).bind fun (a, _) =>
      (TextDecoder.unit inside).bind fun c =>
        match peek c with
        | (none, c) => c.failHere .endInObject
        | (some (next, rest), c) =>
          if next = '\x7d' then .ok (a, c.advance next rest) else c.failHere .expectedValue := by
  simp only [TextDecoder.variantEntry, TextDecoder.variantKey, hpeek, if_true, hkey,
    TextDecoder.variant, bind, Except.bind]
  cases v.ofName? key with
  | none => rfl
  | some a =>
    cases hunit : TextDecoder.unit inside with
    | error e => simp only [hcolon, hunit]
    | ok c =>
      rcases hend : peek c with ⟨_ | ⟨next, rest⟩, place⟩ <;> simp only [hcolon, hunit, hend]

/-- The only entry of an object spells the same as the object. -/
lemma sameResult_variantEntry {depth bound : Nat} {entries : List (String × Json)} (v : Variants α)
    (h : EntriesRead (readTree depth) bound true c entries after)
    (hkeys : (entries.map (·.1)).Nodup) :
    SameResult after (TextDecoder.variantEntry v c)
      (Decoder.enumeration v (.object (sortEntries (normalEntries entries)))) := by
  cases h with
  | close hnext =>
    obtain ⟨rest, hpeek⟩ := peek_of_closedObject hnext
    have hquote : '\x7d' ≠ '"' := by decide
    simp only [TextDecoder.variantEntry, TextDecoder.variantKey, hpeek, if_neg hquote, bind,
      Except.bind]
    exact .neither _ _
  | @entry _ _ _ _ colon inside next _ key item more hnext hkey hcolon hitem hmore =>
    obtain ⟨-, rest, quote, hpeek, rfl⟩ | ⟨hfirst, -⟩ := peek_of_key hnext
    swap
    · cases hfirst
    rw [variantEntry_of_entry hpeek hkey hcolon, TextDecoder.variant]
    cases more with
    | nil =>
      obtain ⟨behind, brace, hbrace, rfl⟩ := hmore.peek_of_nil
      change SameResult _ _ (Decoder.enumeration v (.object [(key, item.normal)]))
      simp only [Decoder.enumeration, Decoder.variant]
      cases v.ofName? key with
      | none => exact .neither _ _
      | some a =>
        obtain ⟨rfl, hunit⟩ | ⟨hnull, e, hunit⟩ := unit_of_readTree hitem
        · simp only [Except.bind, hunit, hbrace, if_true, normal]
          exact .both a
        · simp only [Except.bind, hunit]
          split
          next heq => exact absurd (normal_eq_null.mp heq) hnull
          next => exact .neither _ _
    | cons other more =>
      -- the value is refused for its length, the text at the comma if not before
      have hlength : (sortEntries (normalEntries ((key, item) :: other :: more))).length ≠ 1 := by
        rw [(sortEntries_perm (by rwa [map_keys_normalEntries])).length_eq, normalEntries_eq_map]
        simp
      obtain ⟨m, hm⟩ := enumeration_of_length v hlength
      rw [hm]
      cases v.ofName? key with
      | none => exact .neither _ _
      | some a =>
        obtain ⟨-, hunit⟩ | ⟨-, e, hunit⟩ := unit_of_readTree hitem
        · obtain ⟨behind, comma, hcomma⟩ := hmore.peek_of_cons
          have hbrace : ',' ≠ '\x7d' := by decide
          simp only [Except.bind, hunit, hcomma, if_neg hbrace]
          exact .neither _ _
        · simp only [Except.bind, hunit]
          exact .neither _ _

lemma agree_enumeration (v : Variants α) :
    Agree (TextDecoder.enumeration v) (Decoder.enumeration v) := by
  intro depth c tree after htree hkeys
  obtain ⟨next, rest, start, hpeek, hread⟩ := treeRead_of_readTree htree
  simp only [TextDecoder.enumeration, hpeek]
  cases hread with
  | string hs =>
    rw [if_pos rfl, hs]
    exact sameResult_variant v _ _
  | @object depth entries _ hentries =>
    rw [if_neg (by decide), if_pos rfl, if_neg (Nat.succ_ne_zero depth)]
    cases hkeys with
    | object hnodup => exact sameResult_variantEntry v hentries hnodup
  | @number _ next n after hnumber =>
    obtain ⟨-, -, -, hquote, -, hbrace⟩ := ne_of_startsNumber hnumber
    rw [if_neg hquote, if_neg hbrace]
    cases n <;> exact .neither _ _
  | _ =>
    rw [if_neg (by decide), if_neg (by decide)]
    exact .neither _ _

/-! ### Records -/

/-- Fields of the same names in the same order, of which each is read the same. -/
def FieldsAgree (fields : List (Field TextDecoder α)) (fields' : List (Field Decoder α)) : Prop :=
  List.Forall₂ (fun field field' => field.name = field'.name ∧ Agree field.read field'.read)
    fields fields'

section Records

variable {depth : Nat} {fields : List (Field TextDecoder α)} {fields' : List (Field Decoder α)}

lemma FieldsAgree.find? (h : FieldsAgree fields fields') (key : String) :
    (fields.find? (·.name == key) = none ∧ fields'.find? (·.name == key) = none) ∨
      ∃ field field', fields.find? (·.name == key) = some field ∧
        fields'.find? (·.name == key) = some field' ∧ Agree field.read field'.read := by
  induction h with
  | nil => exact .inl ⟨rfl, rfl⟩
  | @cons field field' _ _ hfield _ ih =>
    by_cases hname : field'.name = key
    · refine .inr ⟨field, field', ?_, ?_, hfield.2⟩
      · exact List.find?_cons_of_pos (by simp [hfield.1, hname])
      · exact List.find?_cons_of_pos (by simp [hname])
    · rwa [List.find?_cons_of_neg (by simp [hfield.1, hname]),
        List.find?_cons_of_neg (by simp [hname])]

/-- A list does not end where another element starts. -/
lemma closeList_of_element {first : Bool} (h : nextElement first c = .ok (.element start)) :
    ∃ e, closeList c = .error e := by
  obtain ⟨next, rest, place, hpeek, hclose⟩ :
      ∃ next rest place, peek c = (some (next, rest), place) ∧ next ≠ ']' := by
    obtain ⟨-, next, rest, hpeek, hclose⟩ | ⟨-, rest, comma, -, -, hpeek, -⟩ := peek_of_element h
    · exact ⟨next, rest, start, hpeek, hclose⟩
    · exact ⟨',', rest, comma, hpeek, by decide⟩
  simp only [closeList, hpeek, if_neg hclose]
  split_ifs
  · split <;> exact ⟨_, rfl⟩
  · exact ⟨_, rfl⟩

/-- The items of an array are put into the fields in order, and none may be left over. -/
lemma sameResult_readElements (hfields : FieldsAgree fields fields') {first : Bool}
    {items : List Json} (h : ItemsRead (readTree depth) first c items after)
    (hkeys : ∀ j ∈ items, j.RepeatsNoKey) (record : α) (m : Mismatch) :
    SameResult after (TextDecoder.readElements depth first record fields c)
      (match Decoder.readItems fields' record (normalItems items) with
        | .error e => .error e
        | .ok (filled, left) => if left.isEmpty then .ok filled else .error m) := by
  induction hfields generalizing first c items record with
  | nil =>
    rw [TextDecoder.readElements]
    cases h with
    | close hnext hclose =>
      obtain ⟨rest, hpeek⟩ := peek_of_closedList hnext
      rw [closeList_of_peek hpeek] at hclose
      cases hclose
      simp only [closeList, hpeek, if_true]
      exact .both record
    | item hnext =>
      obtain ⟨e, he⟩ := closeList_of_element hnext
      rw [he]
      exact .neither _ _
  | @cons field field' fields fields' hfield _ ih =>
    rw [TextDecoder.readElements]
    cases h with
    | close hnext hclose =>
      simp only [hnext, hclose]
      exact .both record
    | item hnext hitem hmore =>
      rw [List.forall_mem_cons] at hkeys
      simp only [hnext, normalItems, Decoder.readItems]
      obtain ⟨put, hread, hread'⟩ | ⟨e, e', hread, hread'⟩ :=
        (hfield.2 _ _ _ _ hitem hkeys.1).cases
      · simp only [hread, hread']
        exact ih hmore hkeys.2 (put record)
      · simp only [hread, hread']
        exact .neither _ _

/-- The entries of an object are put into the fields of their names, and entries of other names are
skipped. -/
lemma sameResult_readFields (hfields : FieldsAgree fields fields') {bound : Nat} {first : Bool}
    {entries : List (String × Json)} (h : EntriesRead (readTree depth) bound first c entries after)
    (hnodup : (entries.map (·.1)).Nodup) (hkeys : ∀ e ∈ entries, e.2.RepeatsNoKey)
    {seen : List String} (hseen : ∀ e ∈ entries, e.1 ∉ seen) (record : α) :
    SameResult after (TextDecoder.readFields fields depth first seen record bound c)
      (Decoder.readEntries fields' record (normalEntries entries)) := by
  induction h generalizing seen record with
  | close hnext hclose =>
    simp only [TextDecoder.readFields, hnext, hclose]
    exact .both record
  | @entry bound first c start colon inside next after key item more hnext hkey hcolon hitem hmore
      ih =>
    rw [List.map_cons, List.nodup_cons] at hnodup
    rw [List.forall_mem_cons] at hkeys hseen
    rw [TextDecoder.readFields, normalEntries, Decoder.readEntries]
    obtain ⟨hfind, hfind'⟩ | ⟨field, field', hfind, hfind', hagree⟩ := hfields.find? key
    · have hskip : skipValue inside = .ok next := skipValue_of_readTree hitem
      simp only [hnext, hkey, hfind, hfind', hcolon, hskip]
      exact ih hnodup.2 hkeys.2 hseen.2 record
    · have hnew : seen.contains key = false := by simpa using hseen.1
      simp only [hnext, hkey, hfind, hfind', hnew, hcolon]
      obtain ⟨put, hread, hread'⟩ | ⟨e, e', hread, hread'⟩ :=
        (hagree _ _ _ _ hitem hkeys.1).cases
      · simp only [hread, hread']
        have hseen' : ∀ e ∈ more, e.1 ∉ key :: seen := by
          intro e he hmem
          rcases List.mem_cons.mp hmem with hsame | hmem
          · exact hnodup.1 (List.mem_map.mpr ⟨e, he, hsame⟩)
          · exact hseen.2 e he hmem
        exact ih hnodup.2 hkeys.2 hseen' (put record)
      · simp only [hread, hread']
        exact .neither _ _

lemma agree_record (name : String) (hfields : FieldsAgree fields fields')
    (hcommute : fields'.Pairwise Decoder.Commute) (initial : α) :
    Agree (TextDecoder.record name fields initial) (Decoder.record name fields' initial) := by
  intro depth c tree after htree hkeys
  obtain ⟨next, rest, start, hpeek, hread⟩ := treeRead_of_readTree htree
  simp only [TextDecoder.record, hpeek]
  cases hread with
  | array hitems =>
    cases hkeys with
    | array hitemKeys => exact sameResult_readElements hfields hitems hitemKeys initial _
  | @object depth entries _ hentries =>
    cases hkeys with
    | object hnodup hvalueKeys =>
      -- in the order of the text first, then in key order
      have hsame := sameResult_readFields hfields hentries hnodup hvalueKeys
        (fun _ _ => List.not_mem_nil) initial
      have hperm : (sortEntries (normalEntries entries)).Perm (normalEntries entries) :=
        sortEntries_perm (by rwa [map_keys_normalEntries])
      apply hsame.of_toOption_eq
      exact Decoder.readEntries_of_perm hcommute hperm.symm (by rwa [map_keys_normalEntries])
        initial
  | @number _ next n after hnumber =>
    obtain ⟨-, -, -, -, hlist, hobject⟩ := ne_of_startsNumber hnumber
    rw [if_neg (by simp [hlist, hobject])]
    cases n <;> exact .of_refuse _ _
  | _ =>
    rw [if_neg (by decide)]
    exact .of_refuse _ _

end Records

/-- A field is read the same if what is put into the record is. -/
lemma fieldAgree_of {name : String} {d : TextDecoder β} {d' : Decoder β} (h : Agree d d')
    (put : β → α → α) :
    (Field.of name d put).name = (Field.of name d' put).name ∧
      Agree (Field.of name d put).read (Field.of name d' put).read :=
  ⟨rfl, agree_map h put⟩

/-! ### Whole texts -/

lemma exists_of_parseTree_eq_ok {text : String} {tree : Json} (h : parseTree text = .ok tree) :
    ∃ after, readTree depthLimit (.ofString text) = .ok (tree, after) ∧ readEnd after = .ok () := by
  simp only [parseTree, bind, Except.bind] at h
  split at h
  · cases h
  next result hread =>
  split at h
  · cases h
  next hend =>
  cases h
  exact ⟨result.2, hread, hend⟩

/-- A text that holds a value and nothing else gives the same as the value. -/
lemma run_eq_ok_iff {d : TextDecoder α} {d' : Decoder α} (h : Agree d d') {text : String} {v : Json}
    (hparse : parse text = .ok v) (hkeys : ∀ tree, parseTree text = .ok tree → tree.RepeatsNoKey)
    (a : α) : d.run text = .ok a ↔ d' v = .ok a := by
  obtain ⟨tree, htree, rfl⟩ := exists_of_map_eq_ok hparse
  obtain ⟨after, hread, hend⟩ := exists_of_parseTree_eq_ok htree
  have hsame := h depthLimit (.ofString text) tree after hread (hkeys tree htree)
  simp only [TextDecoder.run, bind, Except.bind]
  obtain ⟨b, hb, hb'⟩ | ⟨e, m, he, hm⟩ := hsame.cases
  · simp only [hb, hb', hend, pure, Except.pure, Except.ok.injEq]
  · simp only [he, hm, reduceCtorEq]

end Json

open Json Wire

/-! ### Documents -/

lemma mapError_eq_ok {ε ε' α : Type} {f : ε → ε'} {x : Except ε α} {a : α} :
    x.mapError f = .ok a ↔ x = .ok a := by
  cases x with
  | error => simp only [Except.mapError, reduceCtorEq]
  | ok b => simp only [Except.mapError, Except.ok.injEq]

namespace ServiceReference

lemma commute_fields :
    (fields : List (Field Decoder ServiceReference)).Pairwise Decoder.Commute := by
  simp only [fields, List.pairwise_cons, List.forall_mem_cons]
  exact ⟨⟨Decoder.commute_of fun _ _ _ => rfl, nofun⟩, nofun, .nil⟩

lemma agree_decoder :
    Agree (decoder : TextDecoder ServiceReference) (decoder : Decoder ServiceReference) := by
  have hstring := agree_optional agree_string
  have hfields : FieldsAgree fields fields :=
    .cons (fieldAgree_of hstring _) (.cons (fieldAgree_of hstring _) .nil)
  exact agree_record _ hfields commute_fields _

end ServiceReference

namespace RawDocument

lemma commute_fields : (fields : List (Field Decoder RawDocument)).Pairwise Decoder.Commute := by
  simp only [fields, List.pairwise_cons, List.forall_mem_cons]
  refine ⟨⟨?_, ?_, ?_, nofun⟩, ⟨?_, ?_, nofun⟩, ⟨?_, nofun⟩, nofun, .nil⟩ <;>
    exact Decoder.commute_of fun _ _ _ => rfl

lemma agree_decoder :
    Agree (decoder : TextDecoder RawDocument) (decoder : Decoder RawDocument) := by
  have htype := agree_enumeration DocumentType.variants
  have hservice := agree_optional ServiceReference.agree_decoder
  have hrules := agree_optional agree_anyValue
  have hfields : FieldsAgree fields fields :=
    .cons (fieldAgree_of htype _) (.cons (fieldAgree_of hservice _)
      (.cons (fieldAgree_of hrules _) (.cons (fieldAgree_of hrules _) .nil)))
  exact agree_record _ hfields commute_fields _

/-- A text that holds one value, in which no object repeats a key, spells a document exactly if the
value does, and then both spell the same one. -/
theorem ofText_iff_ofJson {text : String} {v : Json} (hparse : parse text = .ok v)
    (hkeys : ∀ tree, parseTree text = .ok tree → tree.RepeatsNoKey) (raw : RawDocument) :
    ofText text = .ok raw ↔ ofJson v = .ok raw := by
  have hrun := run_eq_ok_iff agree_decoder hparse hkeys raw
  rw [ofText, ofJson, mapError_eq_ok, mapError_eq_ok, hrun]

/-- The keys of this text are in no order, one of them is unknown, the type is spelled as an object
and the service as an array. -/
def disorderedText : String :=
  "\x7b\"more\":[\x7b\"b\":-1,\"a\":[true]\x7d,\"\\u00e9\"],\"service\":[null,\"order\"]," ++
    "\"routing\":null,\"type\":\x7b\"RATE_LIMIT\":null\x7d," ++
    "\"rateLimit\":\x7b\"rules\":[],\"revision\":\"7\"\x7d\x7d"

def disordered : RawDocument :=
  ⟨.rateLimit, some ⟨none, some "order"⟩, none,
    some (.object [("revision", .string "7"), ("rules", .array [])])⟩

def disorderedTree : Json :=
  .object [
    ("more", .array [
      .object [("b", .integer ⟨-1, by decide, by decide⟩), ("a", .array [.bool true])],
      .string "é"]),
    ("service", .array [.null, .string "order"]),
    ("routing", .null),
    ("type", .object [("RATE_LIMIT", .null)]),
    ("rateLimit", .object [("rules", .array []), ("revision", .string "7")])]

lemma parseTree_disorderedText : parseTree disorderedText = .ok disorderedTree := by
  unfold disorderedText
  simp only [String.reduceAppend]
  simp only [parseTree, Cursor.ofString, String.reduceToList]
  cbv

lemma repeatsNoKey_disorderedTree : disorderedTree.RepeatsNoKey := by
  have hmore : (Json.object [("b", .integer ⟨-1, by decide, by decide⟩),
      ("a", .array [.bool true])]).RepeatsNoKey := by
    refine .object (by decide) ?_
    simp only [List.forall_mem_cons]
    exact ⟨.integer _, .array (by simpa using .bool true), nofun⟩
  have hrules : (Json.object [("rules", .array []), ("revision", .string "7")]).RepeatsNoKey := by
    refine .object (by decide) ?_
    simp only [List.forall_mem_cons]
    exact ⟨.array nofun, .string _, nofun⟩
  have hservice : (Json.array [.null, .string "order"]).RepeatsNoKey := by
    refine .array ?_
    simp only [List.forall_mem_cons]
    exact ⟨.null, .string _, nofun⟩
  refine .object (by decide) ?_
  simp only [List.forall_mem_cons]
  refine ⟨.array ?_, hservice, .null, .object (by decide) (by simpa using .null), hrules, nofun⟩
  simp only [List.forall_mem_cons]
  exact ⟨hmore, .string _, nofun⟩

/-- The order of the keys, the unknown one and the other spellings make no difference. -/
theorem ofText_disorderedText :
    ∃ v, parse disorderedText = .ok v ∧ ofJson v = .ok disordered ∧
      ofText disorderedText = .ok disordered := by
  have hparse : parse disorderedText = .ok disorderedTree.normal := by
    rw [parse, parseTree_disorderedText]
    rfl
  have hjson : ofJson disorderedTree.normal = .ok disordered := by
    cbv
  have hkeys : ∀ tree, parseTree disorderedText = .ok tree → tree.RepeatsNoKey := by
    intro tree htree
    cases parseTree_disorderedText.symm.trans htree
    exact repeatsNoKey_disorderedTree
  exact ⟨_, hparse, hjson, (ofText_iff_ofJson hparse hkeys disordered).mpr hjson⟩

end RawDocument

end RuleIntake
