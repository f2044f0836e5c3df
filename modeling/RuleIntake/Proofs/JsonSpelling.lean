import Mathlib.Tactic.Common
import RuleIntake.Json.Decoder
import RuleIntake.Proofs.RecordParts
import RuleIntake.Proofs.TreeReading

/-!
# Spellings as JSON values

Which JSON values spell a string, a number, an option, a list, a value of an enumeration or a
record, said without a decoder. Each decoder returns exactly what a value spells: nothing else is
accepted, and nothing that is spelled is refused.
-/

namespace RuleIntake.Json

open Wire

variable {α β : Type}

/-! ### What values spell -/

inductive StringSpelled : Json → String → Prop
  | string (s : String) : StringSpelled (.string s) s

inductive BoolSpelled : Json → Bool → Prop
  | bool (b : Bool) : BoolSpelled (.bool b) b

/-- An integer of 32 bits without sign. Floating point numbers spell none, whatever their value. -/
inductive WordSpelled : Json → UInt32 → Prop
  | integer {n : WireInt} {w : UInt32} : n.val = w.toNat → WordSpelled (.integer n) w

inductive OptionSpelled (S : Json → β → Prop) : Json → Option β → Prop
  | null : OptionSpelled S .null none
  | some {j : Json} {b : β} : S j b → OptionSpelled S j (some b)

inductive ListSpelled (S : Json → β → Prop) : Json → List β → Prop
  | array {items : List Json} {bs : List β} : List.Forall₂ S items bs →
      ListSpelled S (.array items) bs

/-- An object spells entries of the same keys in the same order. -/
inductive EntriesSpelled (S : Json → β → Prop) : Json → List (String × β) → Prop
  | object {entries : List (String × Json)} {bs : List (String × β)} :
      List.Forall₂ (fun e b => e.1 = b.1 ∧ S e.2 b.2) entries bs →
        EntriesSpelled S (.object entries) bs

/-- A name, alone or as the only key of an object with the value null. -/
inductive EnumSpelled (names : List (String × β)) : Json → β → Prop
  | name {name : String} {b : β} : (name, b) ∈ names → EnumSpelled names (.string name) b
  | key {name : String} {b : β} : (name, b) ∈ names →
      EnumSpelled names (.object [(name, .null)]) b

/-- An object of named fields, or an array of fields in declaration order. -/
inductive RecordSpelled (schema : List (FieldSchema Json α)) (blank : α) : Json → α → Prop
  | object {entries : List (String × Json)} {a : α} : SpelledByEntries schema blank entries a →
      RecordSpelled schema blank (.object entries) a
  | array {items : List Json} {a : α} : SpelledByItems schema blank items a →
      RecordSpelled schema blank (.array items) a

/-! ### Decoders of plain values -/

/-- What a decoder returns is what a value spells. -/
def Decodes (d : Decoder α) (S : Json → α → Prop) : Prop :=
  ∀ j, j.IsCanonical → ∀ a, d j = .ok a ↔ S j a

lemma decodes_string : Decodes Decoder.string StringSpelled := by
  intro j _ a
  constructor
  · intro h
    cases j <;> cases h
    exact .string _
  · rintro ⟨⟩
    rfl

lemma decodes_boolean : Decodes Decoder.boolean BoolSpelled := by
  intro j _ a
  constructor
  · intro h
    cases j <;> cases h
    exact .bool _
  · rintro ⟨⟩
    rfl

lemma decodes_word : Decodes Decoder.word WordSpelled := by
  intro j _ w
  constructor
  · intro h
    cases j with
    | integer n =>
      rw [Decoder.word] at h
      split_ifs at h with hn
      cases h
      refine .integer ?_
      rw [UInt32.toNat_ofNat']
      omega
    | _ => cases h
  · rintro ⟨hn⟩
    have hw := w.toNat_lt
    rw [Decoder.word, if_pos (by omega), hn, Int.toNat_natCast, UInt32.ofNat_toNat]

lemma decodes_optional {d : Decoder β} {S : Json → β → Prop} (h : Decodes d S)
    (hnull : ∀ b, ¬S .null b) : Decodes (Decoder.optional d) (OptionSpelled S) := by
  intro j hj a
  constructor
  · intro ha
    unfold Decoder.optional at ha
    split at ha
    · cases ha
      exact .null
    · obtain ⟨b, hb, rfl⟩ := exists_of_map_eq_ok ha
      exact .some ((h j hj b).mp hb)
  · rintro (_ | @⟨_, b, hb⟩)
    · rfl
    · unfold Decoder.optional
      split
      · exact absurd hb (hnull b)
      · rw [(h j hj b).mpr hb]
        rfl

lemma mapM_eq_ok_iff {ε γ δ : Type} {d : γ → Except ε δ} {R : γ → δ → Prop} {cs : List γ}
    {ds : List δ} (h : ∀ c ∈ cs, ∀ b, d c = .ok b ↔ R c b) :
    cs.mapM d = .ok ds ↔ List.Forall₂ R cs ds := by
  induction cs generalizing ds with
  | nil => simp [pure, Except.pure, eq_comm]
  | cons c cs ih =>
    obtain ⟨hc, hcs⟩ := List.forall_mem_cons.mp h
    rw [List.mapM_cons, List.forall₂_cons_left_iff]
    cases hd : d c with
    | error e =>
      have hnone (b : δ) : ¬R c b := by
        rw [← hc, hd]
        nofun
      simp [bind, Except.bind, hnone]
    | ok b =>
      have hb (b' : δ) : R c b' ↔ b = b' := by rw [← hc, hd, Except.ok.injEq]
      cases hrest : cs.mapM d with
      | error e =>
        have hnone (bs : List δ) : ¬List.Forall₂ R cs bs := by
          rw [← ih hcs, hrest]
          nofun
        simp [bind, Except.bind, hnone]
      | ok bs =>
        have hbs (bs' : List δ) : List.Forall₂ R cs bs' ↔ bs = bs' := by
          rw [← ih hcs, hrest, Except.ok.injEq]
        simp [bind, Except.bind, pure, Except.pure, hb, hbs, eq_comm]

lemma decodes_list {d : Decoder β} {S : Json → β → Prop} (h : Decodes d S) :
    Decodes (Decoder.list d) (ListSpelled S) := by
  intro j hj bs
  constructor
  · intro hbs
    cases hj with
    | @array items hitems => exact .array ((mapM_eq_ok_iff fun j hj => h j (hitems j hj)).mp hbs)
    | _ => cases hbs
  · rintro ⟨hbs⟩
    cases hj with
    | array hitems => exact (mapM_eq_ok_iff fun j hj => h j (hitems j hj)).mpr hbs

lemma decodes_entries {d : Decoder β} {S : Json → β → Prop} (h : Decodes d S) :
    Decodes (Decoder.entries d) (EntriesSpelled S) := by
  intro j hj bs
  have hentry {e : String × Json} (he : e.2.IsCanonical) (b : String × β) :
      ((d e.2).map fun b => (e.1, b)) = .ok b ↔ e.1 = b.1 ∧ S e.2 b.2 := by
    rw [← h e.2 he]
    obtain ⟨key, b⟩ := b
    cases d e.2 <;> simp [Except.map]
  constructor
  · intro hbs
    cases hj with
    | @object entries _ hvalues =>
      exact .object ((mapM_eq_ok_iff fun e he => hentry (hvalues e he)).mp hbs)
    | _ => cases hbs
  · rintro ⟨hbs⟩
    cases hj with
    | object _ hvalues => exact (mapM_eq_ok_iff fun e he => hentry (hvalues e he)).mpr hbs

lemma variant_eq_ok_iff {v : Variants β} {name : String} {b : β} :
    Decoder.variant v name = .ok b ↔ v.ofName? name = some b := by
  rw [Decoder.variant]
  cases v.ofName? name <;> simp

lemma decodes_enumeration {v : Variants β} {names : List (String × β)}
    (hnames : ∀ name b, v.ofName? name = some b ↔ (name, b) ∈ names) :
    Decodes (Decoder.enumeration v) (EnumSpelled names) := by
  intro j _ b
  constructor
  · intro h
    unfold Decoder.enumeration at h
    split at h
    case h_1 name _ => exact .name ((hnames name b).mp (variant_eq_ok_iff.mp h))
    case h_2 key content _ =>
      split at h
      · cases h
      next b' hvariant =>
      split at h
      · cases h
        exact .key ((hnames key b).mp (variant_eq_ok_iff.mp hvariant))
      · cases h
    · cases h
    · cases h
  · rintro (h | h)
    · exact variant_eq_ok_iff.mpr ((hnames _ b).mpr h)
    · have hvariant := variant_eq_ok_iff.mpr ((hnames _ b).mpr h)
      simp only [Decoder.enumeration, hvariant]

/-! ### Records -/

/-- A field reads what spells its part, and puts it where the schema looks for it. -/
structure Reads (field : Field Decoder α) (f : FieldSchema Json α) : Prop where
  name : field.name = f.name
  outcome : ∀ j, j.IsCanonical →
    (∃ put, field.read j = .ok put ∧ ∀ a part, f.Spells j part ↔ f.get (put a) = part) ∨
      ((∃ e, field.read j = .error e) ∧ ∀ part, ¬f.Spells j part)

lemma reads_of {name : String} {d : Decoder β} {S : Json → β → Prop} {get : α → β}
    {put : β → α → α} (h : Decodes d S) (hget : ∀ b a, get (put b a) = b) :
    Reads (.of name d put) (.of name get S) := by
  refine ⟨rfl, fun j hj => ?_⟩
  change (∃ filled, (d j).map put = .ok filled ∧ ∀ a part, S j part ↔ get (filled a) = part) ∨
    (∃ e, (d j).map put = .error e) ∧ ∀ part, ¬S j part
  cases hd : d j with
  | error e =>
    refine .inr ⟨⟨e, rfl⟩, fun part => ?_⟩
    rw [← h j hj, hd]
    nofun
  | ok b =>
    refine .inl ⟨put b, rfl, fun a part => ?_⟩
    rw [← h j hj, hd, hget, Except.ok.injEq]

/-- Whatever a field reads, putting it into a record leaves a part as it is. -/
def Leaves (field : Field Decoder α) (f : FieldSchema Json α) : Prop :=
  ∀ j put, field.read j = .ok put → ∀ a, f.get (put a) = f.get a

lemma leaves_of_spares {field : Field Decoder α} {f : FieldSchema Json α} (h : Spares f field) :
    Leaves field f := by
  cases h with
  | @of β name d put hput =>
    intro j filled hread a
    change (d j).map put = _ at hread
    obtain ⟨b, -, rfl⟩ := exists_of_map_eq_ok hread
    exact hput b a

/-- The fields of a decoder are those of a schema, and each is put into a place of its own. -/
structure Implements (fields : List (Field Decoder α)) (schema : List (FieldSchema Json α)) :
    Prop where
  isSchema : IsSchema schema
  reads : List.Forall₂ Reads fields schema
  leaves : ∀ field ∈ fields, ∀ f ∈ schema, field.name ≠ f.name → Leaves field f

/-- Fields that decode the parts of a schema make up a decoder of it. -/
theorem implements_of_row {Ts : List Type} (e : α ≃ Row Ts) {fields : List (Field Decoder α)}
    {schema : List (FieldSchema Json α)}
    (h : Fills (fun _ d S _ => Decodes d S) (.ofEquiv e) fields schema)
    (hnames : (schema.map (·.name)).Nodup) : Implements fields schema where
  isSchema := isSchema_of_row e h.covers hnames
  reads := h.forall₂ fun _ _ _ _ v hdecodes => reads_of hdecodes v.get_put
  leaves field hfield f hf hne := leaves_of_spares (h.spares field hfield f hf hne)

section Records

variable {fields : List (Field Decoder α)} {schema : List (FieldSchema Json α)}

/-- Entries of different keys are read as the record that they spell, on from a given one. -/
lemma readEntries_eq_ok_iff (h : Implements fields schema) {entries : List (String × Json)}
    (hkeys : (entries.map (·.1)).Nodup) (hvalues : ∀ e ∈ entries, e.2.IsCanonical)
    (record a : α) :
    Decoder.readEntries fields record entries = .ok a ↔
      SpelledByEntries schema record entries a := by
  induction entries generalizing record with
  | nil => rw [Decoder.readEntries, spelledByEntries_nil h.isSchema, Except.ok.injEq]
  | cons e rest ih =>
    obtain ⟨key, value⟩ := e
    obtain ⟨hnew, hkeys'⟩ := List.nodup_cons.mp hkeys
    obtain ⟨hvalue, hvalues'⟩ := List.forall_mem_cons.mp hvalues
    rw [Decoder.readEntries]
    obtain ⟨hfind, hnames⟩ | ⟨field, hfield, f, hf, hfind, rfl, hreads⟩ :=
      find?_of_forall₂ h.reads (fun _ _ hreads => hreads.name) key
    · rw [hfind, spelledByEntries_cons_of_unknown hnames]
      exact ih hkeys' hvalues' record
    rw [hfind]
    obtain ⟨put, hread, hspells⟩ | ⟨⟨e, hread⟩, hnone⟩ := hreads.outcome value hvalue
    · simp only [hread]
      have hothers : ∀ g ∈ schema, f.name ≠ g.name → g.get (put record) = g.get record := by
        intro g hg hne
        exact h.leaves field hfield g hg (hreads.name ▸ hne) value put hread record
      rw [ih hkeys' hvalues']
      constructor
      · intro ha
        exact ha.cons h.isSchema hf hnew ((hspells record _).mpr rfl) hothers
      · intro ha
        have hget := (hspells record _).mp (ha.present f hf value List.mem_cons_self)
        exact ha.tail h.isSchema hf hget.symm hothers
    · simp only [hread, reduceCtorEq, false_iff]
      intro ha
      exact hnone _ (ha.present f hf value List.mem_cons_self)

/-- Items are read like entries under the names of the fields that they stand for. -/
lemma readItems_of_length_le {rest : List (Field Decoder α)}
    (hfind : ∀ field ∈ rest, fields.find? (·.name == field.name) = some field)
    {items : List Json} (hlength : items.length ≤ rest.length) (record : α) :
    Decoder.readItems rest record items =
      (Decoder.readEntries fields record ((rest.map (·.name)).zip items)).map fun a => (a, []) := by
  induction rest generalizing items record with
  | nil =>
    rw [List.length_nil, Nat.le_zero, List.length_eq_zero_iff] at hlength
    rw [hlength]
    rfl
  | cons field rest ih =>
    obtain ⟨hfield, hrest⟩ := List.forall_mem_cons.mp hfind
    obtain _ | ⟨item, items⟩ := items
    · rfl
    rw [Decoder.readItems, List.map_cons, List.zip_cons_cons, Decoder.readEntries, hfield]
    cases hread : field.read item with
    | error e => simp only [hread, Except.map]
    | ok put =>
      simp only [hread]
      exact ih hrest (Nat.le_of_succ_le_succ hlength) (put record)

lemma readItems_of_length_lt {fields : List (Field Decoder α)} {items left : List Json}
    {record a : α} (hlength : fields.length < items.length)
    (h : Decoder.readItems fields record items = .ok (a, left)) : left ≠ [] := by
  fun_induction Decoder.readItems fields record items with
  | case1 record items =>
    cases h
    exact List.ne_nil_of_length_pos hlength
  | case2 => simp at hlength
  | case3 => cases h
  | case4 field fields record item rest put hread ih => exact ih (by simpa using hlength) h

lemma readItems_eq_ok_iff (h : Implements fields schema) {items : List Json}
    (hitems : ∀ j ∈ items, j.IsCanonical) (record a : α) :
    Decoder.readItems fields record items = .ok (a, []) ↔
      SpelledByItems schema record items a := by
  have hnames : fields.map (·.name) = schema.map (·.name) :=
    map_eq_map_of_forall₂ h.reads fun field f hreads => hreads.name
  have hlengths : fields.length = schema.length := h.reads.length_eq
  by_cases hlength : items.length ≤ fields.length
  · have hnodup : (fields.map (·.name)).Nodup := hnames ▸ h.isSchema.nodup
    have hfind : ∀ field ∈ fields, fields.find? (·.name == field.name) = some field :=
      fun field hfield => (find?_eq_some_iff_of_nodup hnodup).mpr ⟨hfield, rfl⟩
    have hkeys : (((schema.map (·.name)).zip items).map (·.1)).Nodup := h.isSchema.nodup_zip items
    have hvalues : ∀ e ∈ (schema.map (·.name)).zip items, e.2.IsCanonical := by
      intro e he
      exact hitems e.2 (List.of_mem_zip he).2
    rw [readItems_of_length_le hfind hlength, hnames]
    have hentries := readEntries_eq_ok_iff h hkeys hvalues record a
    constructor
    · intro hread
      obtain ⟨b, hb, heq⟩ := exists_of_map_eq_ok hread
      cases heq
      exact ⟨hlengths ▸ hlength, hentries.mp hb⟩
    · intro ha
      rw [hentries.mpr ha.entries]
      rfl
  · constructor
    · intro hread
      exact absurd rfl (readItems_of_length_lt (Nat.lt_of_not_le hlength) hread)
    · intro ha
      exact absurd (hlengths ▸ ha.length_le) hlength

/-- A record is read from what spells it, whichever layout it has. -/
lemma decodes_record (h : Implements fields schema) (name : String) (blank : α) :
    Decodes (Decoder.record name fields blank) (RecordSpelled schema blank) := by
  intro j hj a
  constructor
  · intro hread
    cases hj with
    | object hkeys hvalues =>
      exact .object ((readEntries_eq_ok_iff h hkeys.nodup hvalues blank a).mp hread)
    | array hitems =>
      rw [Decoder.record] at hread
      split at hread
      · cases hread
      next filled left hfilled =>
      split_ifs at hread with hleft
      cases hread
      rw [List.isEmpty_iff.mp hleft] at hfilled
      exact .array ((readItems_eq_ok_iff h hitems blank a).mp hfilled)
    | _ => cases hread
  · rintro (ha | ha)
    · cases hj with
      | object hkeys hvalues =>
        exact (readEntries_eq_ok_iff h hkeys.nodup hvalues blank a).mpr ha
    · cases hj with
      | array hitems =>
        rw [Decoder.record, (readItems_eq_ok_iff h hitems blank a).mpr ha]
        rfl

end Records

end RuleIntake.Json
