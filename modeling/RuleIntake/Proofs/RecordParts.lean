import Mathlib.Logic.Equiv.Defs
import RuleIntake.Proofs.RecordSpelling

/-!
# Parts of records

A record is as good as the row of its parts. A reader that puts each part in its own place of the
row leaves the others alone, and parts in all places make up the record. So much is the same for all
records and all formats, and is said here once; what is left for each record is how the single parts
are read.
-/

namespace RuleIntake.Wire

/-- Values of the given types in a row. -/
abbrev Row : List Type → Type
  | [] => Unit
  | T :: Ts => T × Row Ts

/-- Something in a record that can be replaced. -/
structure View (α β : Type) where
  get : α → β
  put : β → α → α
  get_put : ∀ b a, get (put b a) = b

namespace View

variable {α β γ : Type}

/-- The whole of a record. -/
def ofEquiv (e : α ≃ β) : View α β := ⟨e, fun b _ => e.symm b, fun b _ => e.apply_symm_apply b⟩

def first (v : View α (β × γ)) : View α β where
  get a := (v.get a).1
  put b a := v.put (b, (v.get a).2) a
  get_put b a := by rw [v.get_put]

def rest (v : View α (β × γ)) : View α γ where
  get a := (v.get a).2
  put c a := v.put ((v.get a).1, c) a
  get_put c a := by rw [v.get_put]

lemma rest_get_first_put (v : View α (β × γ)) (b : β) (a : α) :
    v.rest.get (v.first.put b a) = v.rest.get a := by
  change (v.get (v.put (b, (v.get a).2) a)).2 = (v.get a).2
  rw [v.get_put]

lemma first_get_rest_put (v : View α (β × γ)) (c : γ) (a : α) :
    v.first.get (v.rest.put c a) = v.first.get a := by
  change (v.get (v.put ((v.get a).1, c) a)).1 = (v.get a).1
  rw [v.get_put]

end View

/-! ### Schemas -/

variable {R : Type → Type} {M α : Type} {Ts : List Type}

/-- The fields of a schema are the parts of a row, one by one. -/
inductive Covers : {Ts : List Type} → View α (Row Ts) → List (FieldSchema M α) → Prop
  | nil {v : View α (Row [])} : Covers v []
  | cons {T : Type} {Ts : List Type} {v : View α (Row (T :: Ts))} {name : String}
      {S : M → T → Prop} {schema : List (FieldSchema M α)} :
      Covers v.rest schema → Covers v (.of name v.first.get S :: schema)

section Covers

variable {v : View α (Row Ts)} {schema : List (FieldSchema M α)}

lemma Covers.determined (h : Covers v schema) {a b : α} (hab : ∀ f ∈ schema, f.get a = f.get b) :
    v.get a = v.get b := by
  induction h with
  | nil => rfl
  | cons _ ih =>
    obtain ⟨hfirst, hrest⟩ := List.forall_mem_cons.mp hab
    exact Prod.ext hfirst (ih hrest)

/-- What a schema tells of a record depends on the row only. -/
lemma Covers.get_eq (h : Covers v schema) {a b : α} (hab : v.get a = v.get b) :
    ∀ f ∈ schema, f.get a = f.get b := by
  induction h with
  | nil => exact List.forall_mem_nil _
  | cons _ ih =>
    rw [List.forall_mem_cons]
    exact ⟨congrArg Prod.fst hab, ih (congrArg Prod.snd hab)⟩

end Covers

/-- The parts in the row of a record make a schema if they have different names. -/
theorem isSchema_of_row (e : α ≃ Row Ts) {schema : List (FieldSchema M α)}
    (h : Covers (.ofEquiv e) schema) (hnames : (schema.map (·.name)).Nodup) : IsSchema schema :=
  ⟨hnames, fun _ _ hab => e.injective (h.determined hab)⟩

/-! ### Readers -/

/-- Whatever the field reads, it leaves a part as it is. -/
inductive Spares [Functor R] (f : FieldSchema M α) : Field R α → Prop
  | of {β : Type} {name : String} {read : R β} {put : β → α → α} :
      (∀ b a, f.get (put b a) = f.get a) → Spares f (.of name read put)

/-- The fields of a reader put the parts of a schema into a row, one by one. `Q` tells how a part is
read. -/
inductive Fills [Functor R] (Q : ∀ T : Type, R T → (M → T → Prop) → (α → T) → Prop) :
    {Ts : List Type} → View α (Row Ts) → List (Field R α) → List (FieldSchema M α) → Prop
  | nil {v : View α (Row [])} : Fills Q v [] []
  | cons {T : Type} {Ts : List Type} {v : View α (Row (T :: Ts))} {name : String} {read : R T}
      {S : M → T → Prop} {fields : List (Field R α)} {schema : List (FieldSchema M α)} :
      Q T read S v.first.get → Fills Q v.rest fields schema →
        Fills Q v (.of name read v.first.put :: fields) (.of name v.first.get S :: schema)

namespace Fills

variable [Functor R] {Q : ∀ T : Type, R T → (M → T → Prop) → (α → T) → Prop}
  {v : View α (Row Ts)} {fields : List (Field R α)} {schema : List (FieldSchema M α)}

lemma covers (h : Fills Q v fields schema) : Covers v schema := by
  induction h with
  | nil => exact .nil
  | cons _ _ ih => exact .cons ih

/-- What reading a part comes to holds of each field, together with its place in the schema. -/
lemma forall₂ (h : Fills Q v fields schema) {P : Field R α → FieldSchema M α → Prop}
    (hP : ∀ (T : Type) (name : String) (read : R T) (S : M → T → Prop) (v : View α T),
      Q T read S v.get → P (.of name read v.put) (.of name v.get S)) :
    List.Forall₂ P fields schema := by
  induction h with
  | nil => exact .nil
  | cons hread _ ih => exact .cons (hP _ _ _ _ _ hread) ih

/-- What is outside the row is spared. -/
lemma spares_of_put (h : Fills Q v fields schema) {f : FieldSchema M α}
    (hf : ∀ row a, f.get (v.put row a) = f.get a) : ∀ field ∈ fields, Spares f field := by
  induction h with
  | nil => exact List.forall_mem_nil _
  | cons _ _ ih =>
    rw [List.forall_mem_cons]
    exact ⟨.of fun b a => hf _ a, ih fun row a => hf _ a⟩

/-- Each field spares all parts but its own. -/
theorem spares (h : Fills Q v fields schema) :
    ∀ field ∈ fields, ∀ f ∈ schema, field.name ≠ f.name → Spares f field := by
  induction h with
  | nil => exact List.forall_mem_nil _
  | @cons T Ts v name read S fields schema _ hrest ih =>
    have hfirst : ∀ field ∈ fields, Spares (.of name v.first.get S) field :=
      hrest.spares_of_put fun row a => v.first_get_rest_put row a
    rw [List.forall_mem_cons]
    constructor
    · intro f hf hne
      rcases List.mem_cons.mp hf with rfl | hf
      · exact absurd rfl hne
      · exact .of fun b a => hrest.covers.get_eq (v.rest_get_first_put b a) f hf
    · intro field hfield f hf hne
      rcases List.mem_cons.mp hf with rfl | hf
      · exact hfirst field hfield
      · exact ih field hfield f hf hne

end Fills

end RuleIntake.Wire
