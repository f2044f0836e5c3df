import Mathlib.Data.List.Forall2
import Mathlib.Data.List.Nodup
import Mathlib.Tactic.Common
import RuleIntake.Wire.Format

/-!
# Spellings of records

What a record looks like on the wire, told field by field and without a reader: `FieldSchema` names
a part of a record and says what spells it, in whatever form a format has for its values. Entries
under the names of fields spell a record if each spells its part, and if all parts without an entry
are as in a blank record. An array stands for the entries of its items under the names of the first
fields.
-/

namespace RuleIntake.Wire

/-! ### Lists side by side -/

section Lists

variable {β γ δ : Type*} {R : β → γ → Prop} {bs : List β} {cs : List γ}

lemma exists_mem_of_forall₂ (h : List.Forall₂ R bs cs) : ∀ b ∈ bs, ∃ c ∈ cs, R b c := by
  induction h with
  | nil => simp
  | cons hbc _ ih =>
    rw [List.forall_mem_cons]
    refine ⟨⟨_, List.mem_cons_self, hbc⟩, fun b hb => ?_⟩
    obtain ⟨c, hc, hR⟩ := ih b hb
    exact ⟨c, List.mem_cons_of_mem _ hc, hR⟩

lemma map_eq_map_of_forall₂ {f : β → δ} {g : γ → δ} (h : List.Forall₂ R bs cs)
    (hR : ∀ b c, R b c → f b = g c) : bs.map f = cs.map g := by
  rw [← List.forall₂_eq_eq_eq, List.forall₂_map_left_iff, List.forall₂_map_right_iff]
  exact h.imp hR

/-- Where keys differ, what is found under a key is the only element that has it. -/
lemma find?_eq_some_iff_of_nodup {name : β → String} (h : (bs.map name).Nodup) {key : String}
    {b : β} : bs.find? (name · == key) = some b ↔ b ∈ bs ∧ name b = key := by
  constructor
  · intro hfind
    exact ⟨List.mem_of_find?_eq_some hfind, by simpa using List.find?_some hfind⟩
  · rintro ⟨hmem, hname⟩
    obtain ⟨found, hfind⟩ : ∃ found, bs.find? (name · == key) = some found := by
      rw [← Option.isSome_iff_exists, List.find?_isSome]
      exact ⟨b, hmem, by simpa using hname⟩
    have hfound : name found = key := by simpa using List.find?_some hfind
    rw [hfind, List.inj_on_of_nodup_map h (List.mem_of_find?_eq_some hfind) hmem
      (hfound.trans hname.symm)]

end Lists

/-! ### Schemas -/

/-- A part of a record of type `α`: its wire name, and what spells it where values have the form
`M`. -/
structure FieldSchema (M α : Type) where
  name : String
  Part : Type
  get : α → Part
  Spells : M → Part → Prop

variable {M α : Type} {schema : List (FieldSchema M α)} {f : FieldSchema M α} {blank a : α}
  {entries : List (String × M)} {m : M} {key : String}

/-- The field of a schema that holds the given part. -/
def FieldSchema.of {β : Type} (name : String) (get : α → β) (Spells : M → β → Prop) :
    FieldSchema M α :=
  ⟨name, β, get, Spells⟩

/-- Named entries spell a record: those under the name of a field spell its part, and parts without
an entry are blank. Entries of other names may be anything. -/
structure SpelledByEntries (schema : List (FieldSchema M α)) (blank : α)
    (entries : List (String × M)) (a : α) : Prop where
  present : ∀ f ∈ schema, ∀ m, (f.name, m) ∈ entries → f.Spells m (f.get a)
  absent : ∀ f ∈ schema, f.name ∉ entries.map (·.1) → f.get a = f.get blank

/-- Items spell a record: the parts in declaration order, of which the last ones may be left out if
they are blank. -/
structure SpelledByItems (schema : List (FieldSchema M α)) (blank : α) (items : List M) (a : α) :
    Prop where
  length_le : items.length ≤ schema.length
  entries : SpelledByEntries schema blank ((schema.map (·.name)).zip items) a

/-- The fields of a schema have different names, and their parts make up the record. -/
structure IsSchema (schema : List (FieldSchema M α)) : Prop where
  nodup : (schema.map (·.name)).Nodup
  determined : ∀ a b, (∀ f ∈ schema, f.get a = f.get b) → a = b

/-- The fields of a reader that go with those of a schema are found under the same names. -/
lemma find?_of_forall₂ {R : Type → Type} {Q : Field R α → FieldSchema M α → Prop}
    {fields : List (Field R α)} (h : List.Forall₂ Q fields schema)
    (hname : ∀ field f, Q field f → field.name = f.name) (key : String) :
    (fields.find? (·.name == key) = none ∧ ∀ f ∈ schema, f.name ≠ key) ∨
      ∃ field ∈ fields, ∃ f ∈ schema, fields.find? (·.name == key) = some field ∧
        f.name = key ∧ Q field f := by
  induction h with
  | nil => exact .inl ⟨rfl, by simp⟩
  | @cons field f _ _ hfield _ ih =>
    by_cases hkey : f.name = key
    · refine .inr ⟨field, List.mem_cons_self, f, List.mem_cons_self, ?_, hkey, hfield⟩
      exact List.find?_cons_of_pos (by simp [hname field f hfield, hkey])
    · rw [List.find?_cons_of_neg (by simp [hname field f hfield, hkey])]
      obtain ⟨hnone, hnames⟩ | ⟨field', hmem, f', hmem', hfind, hname', hQ⟩ := ih
      · exact .inl ⟨hnone, List.forall_mem_cons.mpr ⟨hkey, hnames⟩⟩
      · exact .inr ⟨field', List.mem_cons_of_mem _ hmem, f', List.mem_cons_of_mem _ hmem', hfind,
          hname', hQ⟩

/-! ### Entries one by one -/

lemma IsSchema.eq_of_name (h : IsSchema schema) {g : FieldSchema M α} (hf : f ∈ schema)
    (hg : g ∈ schema) (hname : f.name = g.name) : f = g :=
  List.inj_on_of_nodup_map h.nodup hf hg hname

/-- Items stand for entries of different names. -/
lemma IsSchema.nodup_zip (h : IsSchema schema) (items : List M) :
    (((schema.map (·.name)).zip items).map (·.1)).Nodup := by
  rw [List.zip_eq_zip_take_min, List.map_fst_zip (by simp)]
  exact h.nodup.sublist (List.take_sublist _ _)

lemma spelledByEntries_nil (h : IsSchema schema) :
    SpelledByEntries schema blank [] a ↔ blank = a := by
  constructor
  · intro ha
    apply h.determined
    intro f hf
    exact (ha.absent f hf List.not_mem_nil).symm
  · rintro rfl
    exact ⟨fun f _ m hm => absurd hm List.not_mem_nil, fun f _ _ => rfl⟩

lemma spelledByEntries_cons_of_unknown (h : ∀ f ∈ schema, f.name ≠ key) :
    SpelledByEntries schema blank ((key, m) :: entries) a ↔
      SpelledByEntries schema blank entries a := by
  have hmem {f : FieldSchema M α} (hf : f ∈ schema) (n : M) :
      (f.name, n) ∈ (key, m) :: entries ↔ (f.name, n) ∈ entries := by
    simp [h f hf]
  have hkeys {f : FieldSchema M α} (hf : f ∈ schema) :
      f.name ∈ ((key, m) :: entries).map (·.1) ↔ f.name ∈ entries.map (·.1) := by
    rw [List.map_cons, List.mem_cons, or_iff_right (h f hf)]
  constructor
  · intro ha
    exact ⟨fun f hf n hn => ha.present f hf n ((hmem hf n).mpr hn),
      fun f hf hn => ha.absent f hf (mt (hkeys hf).mp hn)⟩
  · intro ha
    exact ⟨fun f hf n hn => ha.present f hf n ((hmem hf n).mp hn),
      fun f hf hn => ha.absent f hf (mt (hkeys hf).mpr hn)⟩

section Known

variable {filled : α}

/-- Behind the entry of a field, the other entries spell the same record on from one that has the
part already. -/
lemma SpelledByEntries.tail (hschema : IsSchema schema) (hf : f ∈ schema)
    (h : SpelledByEntries schema blank ((f.name, m) :: entries) a) (hget : f.get a = f.get filled)
    (hothers : ∀ g ∈ schema, f.name ≠ g.name → g.get filled = g.get blank) :
    SpelledByEntries schema filled entries a := by
  refine ⟨fun g hg n hn => h.present g hg n (List.mem_cons_of_mem _ hn), fun g hg hn => ?_⟩
  by_cases hname : f.name = g.name
  · rw [← hschema.eq_of_name hf hg hname, hget]
  · rw [hothers g hg hname]
    apply h.absent g hg
    rw [List.map_cons, List.mem_cons, not_or]
    exact ⟨fun heq => hname heq.symm, hn⟩

/-- The entry of a field can be put in front of entries that leave the field out. -/
lemma SpelledByEntries.cons (hschema : IsSchema schema) (hf : f ∈ schema)
    (hnew : f.name ∉ entries.map (·.1)) (h : SpelledByEntries schema filled entries a)
    (hspells : f.Spells m (f.get filled))
    (hothers : ∀ g ∈ schema, f.name ≠ g.name → g.get filled = g.get blank) :
    SpelledByEntries schema blank ((f.name, m) :: entries) a := by
  constructor
  · intro g hg n hn
    rcases List.mem_cons.mp hn with heq | hn
    · obtain ⟨hname, rfl⟩ := Prod.mk.inj heq
      rw [hschema.eq_of_name hg hf hname, h.absent f hf hnew]
      exact hspells
    · exact h.present g hg n hn
  · intro g hg hn
    rw [List.map_cons, List.mem_cons, not_or] at hn
    rw [h.absent g hg hn.2]
    exact hothers g hg fun heq => hn.1 heq.symm

end Known

/-- Entries spell another record as well if they spell each of its parts and if the same parts are
blank. -/
lemma SpelledByEntries.imp {b : α} (h : SpelledByEntries schema blank entries a)
    (hspells : ∀ f ∈ schema, ∀ m, f.Spells m (f.get a) → f.Spells m (f.get b))
    (hblank : ∀ f ∈ schema, f.get a = f.get blank → f.get b = f.get blank) :
    SpelledByEntries schema blank entries b :=
  ⟨fun f hf m hm => hspells f hf m (h.present f hf m hm),
    fun f hf hn => hblank f hf (h.absent f hf hn)⟩

/-- A record is spelled by entries that are its fields one by one, in whatever order. -/
lemma spelledByEntries_of_fields (hschema : IsSchema schema) {fields : List (String × M)}
    (h : List.Forall₂ (fun f e => f.name = e.1 ∧ f.Spells e.2 (f.get a)) schema fields)
    (hperm : entries.Perm fields) : SpelledByEntries schema blank entries a := by
  have hnames : schema.map (·.name) = fields.map (·.1) :=
    map_eq_map_of_forall₂ h fun f e he => he.1
  have hkeys : (entries.map (·.1)).Nodup := by
    rw [(hperm.map _).nodup_iff, ← hnames]
    exact hschema.nodup
  have hfield : ∀ f ∈ schema, ∃ e ∈ entries, f.name = e.1 ∧ f.Spells e.2 (f.get a) := by
    intro f hf
    obtain ⟨e, he, hspells⟩ := exists_mem_of_forall₂ h f hf
    exact ⟨e, hperm.mem_iff.mpr he, hspells⟩
  constructor
  · intro f hf n hn
    obtain ⟨e, he, hname, hspells⟩ := hfield f hf
    have heq : e = (f.name, n) := List.inj_on_of_nodup_map hkeys he hn hname.symm
    rw [heq] at hspells
    exact hspells
  · intro f hf hn
    obtain ⟨e, he, hname, -⟩ := hfield f hf
    exact absurd (List.mem_map.mpr ⟨e, he, hname.symm⟩) hn

end RuleIntake.Wire
