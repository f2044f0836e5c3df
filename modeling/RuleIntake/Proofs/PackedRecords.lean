import Mathlib
import RuleIntake.Proofs.PackedValues
import RuleIntake.Proofs.RecordParts
import RuleIntake.Proofs.SnapshotRoundTrip

/-!
# Packed records

A record is packed as a map, in which the fields come in any order among entries of other names, or
as an array of its first fields. A reader that takes the part of each field from its bytes takes the
record from either layout, up to its last byte.
-/

namespace RuleIntake.MessagePack

open Wire

variable {α β : Type} {bytes : List UInt8}

/-! ### Layouts -/

/-- Nil, or what some value is packed as. -/
inductive OptionPacked (S : List UInt8 → β → Prop) : List UInt8 → Option β → Prop
  | nil : OptionPacked S nilBytes none
  | some {bytes : List UInt8} {b : β} : S bytes b → OptionPacked S bytes (some b)

/-- Entries of a map that spell a record. No field occurs twice, and under other names there are
values that nest no deeper than there is room. -/
structure FieldsPacked (schema : List (FieldSchema (List UInt8) α)) (blank : α) (room : Nat)
    (entries : List (String × List UInt8)) (a : α) : Prop where
  spelled : SpelledByEntries schema blank entries a
  once : ∀ f ∈ schema, (entries.map (·.1)).count f.name ≤ 1
  others : ∀ e ∈ entries, (∀ f ∈ schema, f.name ≠ e.1) → ∃ j, ValuePacked e.2 j ∧ j.depth ≤ room

/-- A map of named fields, or an array of fields in declaration order. -/
inductive RecordPacked (schema : List (FieldSchema (List UInt8) α)) (blank : α) (room : Nat) :
    List UInt8 → α → Prop
  | map {head body : List UInt8} {entries : List (String × List UInt8)} {a : α} :
      Forms.map.Holds head entries.length → EntriesPacked body entries →
        FieldsPacked schema blank room entries a → RecordPacked schema blank room (head ++ body) a
  | array {head : List UInt8} {items : List (List UInt8)} {a : α} :
      Forms.array.Holds head items.length → SpelledByItems schema blank items a →
        RecordPacked schema blank room (head ++ items.flatten) a

/-- The encoding of an object of all fields is a layout of the record. -/
lemma recordPacked_encodeValue {schema : List (FieldSchema (List UInt8) α)} {a : α}
    {entries : List (String × Json)} (hschema : IsSchema schema)
    (hlength : entries.length < 2 ^ 32) (hkeys : ∀ e ∈ entries, LengthFits e.1)
    (h : List.Forall₂ (fun f e => f.name = e.1 ∧ f.Spells (encodeValue e.2) (f.get a))
      schema entries) (blank : α) (room : Nat) :
    RecordPacked schema blank room (encodeValue (.object entries)) a := by
  have hfields : List.Forall₂ (fun f e => f.name = e.1 ∧ f.Spells e.2 (f.get a)) schema
      (entries.map fun e => (e.1, encodeValue e.2)) := List.forall₂_map_right_iff.mpr h
  have hnames : schema.map (·.name) = entries.map (·.1) :=
    map_eq_map_of_forall₂ h fun f e he => he.1
  refine .map ?_ (packed_encodeEntries hkeys)
    ⟨spelledByEntries_of_fields hschema hfields (.refl _), fun f _ => ?_, fun e he hunknown => ?_⟩
  · rw [List.length_map]
    exact Forms.holds_map hlength
  · rw [List.map_map]
    change (entries.map (·.1)).count f.name ≤ 1
    rw [← hnames]
    exact List.nodup_iff_count_le_one.mp hschema.nodup f.name
  · obtain ⟨f, hf, hname, -⟩ := exists_mem_of_forall₂ hfields.flip e he
    exact absurd hname (hunknown f hf)

/-! ### Options -/

section Options

variable {room : Nat}

lemma yields_none (d : Decoder β) (room : Nat) :
    Yields ((Decoder.optional d).read room) nilBytes none :=
  fun _ => rfl

/-- Wherever bytes stand, they start with a head other than nil. -/
def StartsNonNil (bytes : List UInt8) : Prop :=
  ∃ head, head ≠ .nil ∧ ∀ rest, ∃ after, readHead (bytes ++ rest) = .ok (head, after)

lemma startsNonNil_of_head {head : Head} (h : Yields readHead bytes head) (hnil : head ≠ .nil) :
    StartsNonNil bytes :=
  ⟨head, hnil, fun rest => ⟨rest, h rest⟩⟩

lemma startsNonNil_of_string {s : String} (h : StringPacked bytes s) : StartsNonNil bytes :=
  ⟨.string _, nofun, fun rest => ⟨_, h.readHead rest⟩⟩

lemma StartsNonNil.append (h : StartsNonNil bytes) (more : List UInt8) :
    StartsNonNil (bytes ++ more) := by
  obtain ⟨head, hnil, hhead⟩ := h
  refine ⟨head, hnil, fun rest => ?_⟩
  rw [List.append_assoc]
  exact hhead (more ++ rest)

lemma yields_some {d : Decoder β} {b : β} (hstart : StartsNonNil bytes)
    (hread : Yields (d.read room) bytes b) :
    Yields ((Decoder.optional d).read room) bytes (some b) := by
  intro rest
  obtain ⟨head, hnil, hhead⟩ := hstart
  obtain ⟨after, hafter⟩ := hhead rest
  rw [Decoder.optional_of_head hafter hnil, hread]
  rfl

lemma yields_optionalString {s : Option String} (h : OptionPacked StringPacked bytes s) :
    Yields ((Decoder.optional Decoder.string).read room) bytes s := by
  cases h with
  | nil => exact yields_none _ room
  | some hs => exact yields_some (startsNonNil_of_string hs) (hs.yields room)

/-- A value that is not null does not start like null. -/
lemma startsNonNil_of_packed {j : Json} (h : ValuePacked bytes j) (hj : j ≠ .null) :
    StartsNonNil bytes := by
  cases h with
  | null => exact absurd rfl hj
  | bool b => exact startsNonNil_of_head (yields_bool b) nofun
  | integer hn =>
    obtain hhead | ⟨m, -, hhead⟩ := hn.yields
    · exact startsNonNil_of_head hhead nofun
    · exact startsNonNil_of_head hhead nofun
  | double x => exact startsNonNil_of_head (yields_float x) nofun
  | single _ => exact startsNonNil_of_head (yields_single _) nofun
  | string hs => exact startsNonNil_of_string hs
  | array hhead _ => exact (startsNonNil_of_head hhead.yields_array nofun).append _
  | object hhead _ _ _ => exact (startsNonNil_of_head hhead.yields_map nofun).append _

/-- Rules that may be missing are read from the bytes of a value, null as missing. -/
lemma yields_optionalValue {rules : Option Json} (h : ValuePacked bytes (.ofOption id rules))
    (hcanonical : ∀ j ∈ rules, j.IsCanonical) (hdepth : (Json.ofOption id rules).depth ≤ room) :
    Yields ((Decoder.optional Decoder.anyValue).read room) bytes (rules.bind Json.nonNull?) := by
  by_cases hnull : Json.ofOption id rules = .null
  · have hmissing : rules.bind Json.nonNull? = none := by
      obtain _ | j := rules
      · rfl
      · rw [Option.bind_some, show j = .null from hnull]
        rfl
    rw [hnull] at h
    cases h
    rw [hmissing]
    exact yields_none _ room
  · obtain _ | j := rules
    · exact absurd rfl hnull
    obtain ⟨tree, hnormal, htree⟩ := readAs_of_packed h (hcanonical j rfl) hdepth
    have hvalue : Yields (Decoder.anyValue.read room) bytes j := by
      intro rest
      change (readTree room (bytes ++ rest)).map _ = _
      rw [htree, ← show tree.normal = j from hnormal]
      rfl
    have hsome : j.nonNull? = some j := by
      cases j <;> first | rfl | exact absurd rfl hnull
    rw [Option.bind_some, hsome]
    exact yields_some (startsNonNil_of_packed h hnull) hvalue

end Options

/-! ### Fields -/

/-- From the bytes of its part of a record, a field reads how to put the part in place. -/
structure ReadsPart (room : Nat) (a : α) (field : Field Decoder α)
    (f : FieldSchema (List UInt8) α) : Prop where
  name : field.name = f.name
  read : ∀ bytes, f.Spells bytes (f.get a) →
    ∃ put, Yields (field.read.read room) bytes put ∧ ∀ b, f.get (put b) = f.get a

/-- Whatever a field reads, putting it into a record leaves a part as it is. -/
def LeavesPart (room : Nat) (field : Field Decoder α) (f : FieldSchema (List UInt8) α) : Prop :=
  ∀ bytes put rest, field.read.read room bytes = .ok (put, rest) → ∀ b, f.get (put b) = f.get b

lemma readsPart_of {room : Nat} {a : α} {name : String} {d : Decoder β} {put : β → α → α}
    {S : List UInt8 → β → Prop} {get : α → β}
    (hread : ∀ bytes, S bytes (get a) → Yields (d.read room) bytes (get a))
    (hget : ∀ b r, get (put b r) = b) : ReadsPart room a (.of name d put) (.of name get S) := by
  refine ⟨rfl, fun bytes hS => ⟨put (get a), fun rest => ?_, hget _⟩⟩
  rw [Field.of, Decoder.read_map, hread bytes hS]
  rfl

lemma leavesPart_of_spares {room : Nat} {field : Field Decoder α}
    {f : FieldSchema (List UInt8) α} (h : Spares f field) : LeavesPart room field f := by
  cases h with
  | @of β name d put hput =>
    intro bytes filled rest hread b
    rw [Field.of, Decoder.read_map] at hread
    obtain ⟨⟨part, _⟩, -, hpart⟩ := exists_of_map_eq_ok hread
    cases hpart
    exact hput part b

/-- The fields of a reader take the parts of a record, and each has a place of its own. -/
structure Unpacks (fields : List (Field Decoder α)) (schema : List (FieldSchema (List UInt8) α))
    (room : Nat) (a : α) : Prop where
  isSchema : IsSchema schema
  reads : List.Forall₂ (ReadsPart room a) fields schema
  leaves : ∀ field ∈ fields, ∀ f ∈ schema, field.name ≠ f.name → LeavesPart room field f

/-- Fields that read the parts of a record from their bytes take all of it. -/
theorem unpacks_of_row {Ts : List Type} (e : α ≃ Row Ts) {fields : List (Field Decoder α)}
    {schema : List (FieldSchema (List UInt8) α)} {room : Nat} {a : α}
    (h : Fills (fun _ d S get => ∀ bytes, S bytes (get a) → Yields (d.read room) bytes (get a))
      (.ofEquiv e) fields schema)
    (hnames : (schema.map (·.name)).Nodup) : Unpacks fields schema room a where
  isSchema := isSchema_of_row e h.covers hnames
  reads := h.forall₂ fun _ _ _ _ v hread => readsPart_of hread v.get_put
  leaves field hfield f hf hne := leavesPart_of_spares (h.spares field hfield f hf hne)

lemma StringPacked.yields_identifier {s : String} (h : StringPacked bytes s)
    (expected : Expectation) (room : Nat) :
    Yields (Decoder.readIdentifier expected room) bytes (.name s) := by
  intro rest
  rw [Decoder.readIdentifier, h.readHead]
  dsimp only
  rw [Decoder.readName, readSlice, split_append]
  dsimp only
  rw [Utf8.decode_encode]

section Records

variable {schema : List (FieldSchema (List UInt8) α)} {fields : List (Field Decoder α)}
  {room : Nat} {a record : α} {entries : List (String × List UInt8)}

lemma FieldsPacked.eq_of_nil (hschema : IsSchema schema)
    (h : FieldsPacked schema record room [] a) : record = a :=
  (spelledByEntries_nil hschema).mp h.spelled

section Cons

variable {key : String} {value : List UInt8}

lemma FieldsPacked.once_tail (h : FieldsPacked schema record room ((key, value) :: entries) a) :
    ∀ f ∈ schema, (entries.map (·.1)).count f.name ≤ 1 :=
  fun f hf => Nat.le_trans List.count_le_count_cons (h.once f hf)

lemma FieldsPacked.others_tail (h : FieldsPacked schema record room ((key, value) :: entries) a) :
    ∀ e ∈ entries, (∀ f ∈ schema, f.name ≠ e.1) → ∃ j, ValuePacked e.2 j ∧ j.depth ≤ room :=
  fun e he => h.others e (List.mem_cons_of_mem _ he)

/-- An entry of another name can be left out. -/
lemma FieldsPacked.of_unknown (h : FieldsPacked schema record room ((key, value) :: entries) a)
    (hname : ∀ f ∈ schema, f.name ≠ key) : FieldsPacked schema record room entries a :=
  ⟨(spelledByEntries_cons_of_unknown hname).mp h.spelled, h.once_tail, h.others_tail⟩

/-- No field comes a second time. -/
lemma FieldsPacked.not_mem_tail {f : FieldSchema (List UInt8) α} (hf : f ∈ schema)
    (h : FieldsPacked schema record room ((f.name, value) :: entries) a) :
    f.name ∉ entries.map (·.1) := by
  have hcount := h.once f hf
  rw [List.map_cons, List.count_cons_self] at hcount
  rw [← List.count_eq_zero]
  omega

end Cons

/-- Entry by entry, the record is completed. The fields that were seen before do not come again. -/
lemma yields_fields (hfields : Unpacks fields schema room a) (hbody : EntriesPacked bytes entries)
    (h : FieldsPacked schema record room entries a) {seen : List String}
    (hseen : ∀ f ∈ schema, f.name ∈ seen → f.name ∉ entries.map (·.1)) :
    Yields (Decoder.readFields fields room seen record entries.length) bytes a := by
  induction hbody generalizing record seen with
  | nil =>
    cases h.eq_of_nil hfields.isSchema
    exact fun rest => rfl
  | @cons key value more name entries hkey _ ih =>
    intro rest
    have hseen' : ∀ f ∈ schema, f.name ∈ seen → f.name ∉ entries.map (·.1) :=
      fun f hf hmem htail => hseen f hf hmem (List.mem_cons_of_mem _ htail)
    rw [List.length_cons, List.append_assoc, List.append_assoc, Decoder.readFields,
      hkey.yields_identifier]
    dsimp only [Decoder.field?]
    obtain ⟨hfind, hnames⟩ | ⟨field, hfield, f, hf, hfind, rfl, hreads⟩ :=
      find?_of_forall₂ hfields.reads (fun _ _ hreads => hreads.name) name
    · obtain ⟨j, hj, hdepth⟩ := h.others _ List.mem_cons_self hnames
      rw [hfind]
      dsimp only
      rw [skips_of_packed hj hdepth]
      exact ih (h.of_unknown hnames) hseen' rest
    · have hnew : seen.contains field.name = false := by
        rw [hreads.name, List.contains_eq_mem, decide_eq_false_iff_not]
        exact fun hmem => hseen f hf hmem List.mem_cons_self
      obtain ⟨put, hput, hget⟩ :=
        hreads.read value (h.spelled.present f hf value List.mem_cons_self)
      have hothers : ∀ g ∈ schema, f.name ≠ g.name → g.get (put record) = g.get record := by
        intro g hg hne
        exact hfields.leaves field hfield g hg (hreads.name ▸ hne) _ _ _ (hput rest) record
      have htail : FieldsPacked schema (put record) room entries a :=
        ⟨h.spelled.tail hfields.isSchema hf (hget record).symm hothers, h.once_tail, h.others_tail⟩
      rw [hfind]
      dsimp only
      rw [hnew, if_neg Bool.false_ne_true, hput]
      refine ih htail (fun g hg hmem => ?_) rest
      rcases List.mem_cons.mp hmem with hname | hmem
      · rw [hname, hreads.name]
        exact h.not_mem_tail hf
      · exact hseen' g hg hmem

/-- Item by item, the record is completed. -/
lemma yields_elements (hschema : IsSchema schema) {rest : List (FieldSchema (List UInt8) α)}
    (hreads : List.Forall₂ (ReadsPart room a) fields rest) (hrest : ∀ f ∈ rest, f ∈ schema)
    (hleaves : ∀ field ∈ fields, ∀ f ∈ schema, field.name ≠ f.name → LeavesPart room field f)
    {items : List (List UInt8)} (hlength : items.length ≤ rest.length)
    (h : SpelledByEntries schema record ((rest.map (·.name)).zip items) a) (taken : Nat) :
    Yields (Decoder.readElements room taken record fields items.length) items.flatten a := by
  induction hreads generalizing record items taken with
  | nil =>
    rw [List.length_nil, Nat.le_zero, List.length_eq_zero_iff] at hlength
    subst hlength
    cases (spelledByEntries_nil hschema).mp h
    exact fun rest => rfl
  | @cons field f fields rest hfield _ ih =>
    obtain _ | ⟨item, items⟩ := items
    · cases (spelledByEntries_nil hschema).mp h
      exact fun rest => by simp [Decoder.readElements]
    obtain ⟨hf, hrest⟩ := List.forall_mem_cons.mp hrest
    obtain ⟨hleavesField, hleaves⟩ := List.forall_mem_cons.mp hleaves
    obtain ⟨put, hput, hget⟩ := hfield.read item (h.present f hf item List.mem_cons_self)
    have hothers : ∀ g ∈ schema, f.name ≠ g.name → g.get (put record) = g.get record :=
      fun g hg hne => hleavesField g hg (hfield.name ▸ hne) _ _ _ (hput []) record
    intro after
    rw [List.length_cons, List.flatten_cons, List.append_assoc, Decoder.readElements, hput]
    exact ih hrest hleaves (Nat.le_of_succ_le_succ hlength)
      (h.tail hschema hf (hget record).symm hothers) (taken + 1) after

/-- A record is read from either layout. -/
lemma RecordPacked.yields {blank : α} (h : RecordPacked schema blank room bytes a)
    (hfields : Unpacks fields schema room a) (name : String) :
    Yields ((Decoder.record name fields blank).read (room + 1)) bytes a := by
  intro rest
  cases h with
  | map hhead hbody hentries =>
    simp only [Decoder.record, List.append_assoc, hhead.yields_map _, Nat.add_sub_cancel,
      if_neg (Nat.succ_ne_zero room)]
    exact yields_fields hfields hbody hentries (fun f _ hmem => by cases hmem) rest
  | array hhead hitems =>
    simp only [Decoder.record, List.append_assoc, hhead.yields_array _, Nat.add_sub_cancel,
      if_neg (Nat.succ_ne_zero room)]
    exact yields_elements hfields.isSchema hfields.reads (fun f hf => hf) hfields.leaves
      hitems.length_le hitems.entries 0 rest

lemma RecordPacked.startsNonNil {blank : α} (h : RecordPacked schema blank room bytes a) :
    StartsNonNil bytes := by
  cases h with
  | map hhead _ _ => exact (startsNonNil_of_head hhead.yields_map nofun).append _
  | array hhead _ => exact (startsNonNil_of_head hhead.yields_array nofun).append _

end Records

end RuleIntake.MessagePack
