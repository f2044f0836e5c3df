import Mathlib.Tactic.Common
import RuleIntake.Json.Basic

/-!
# Shape of JSON values

How deep arrays and objects nest in a value, and when a value is its own normal form. Normal forms
are canonical, and bringing a value into normal form makes it no deeper.
-/

namespace RuleIntake.Json

/-- Induction over values: what holds of all items holds of an array, and what holds of the values
of all entries holds of an object. -/
@[elab_as_elim, induction_eliminator]
theorem nestedInduction {motive : Json → Prop} (null : motive .null)
    (bool : ∀ b, motive (.bool b)) (integer : ∀ n, motive (.integer n))
    (float : ∀ x, motive (.float x)) (string : ∀ s, motive (.string s))
    (array : ∀ items, (∀ j ∈ items, motive j) → motive (.array items))
    (object : ∀ entries, (∀ e ∈ entries, motive e.2) → motive (.object entries)) (j : Json) :
    motive j := by
  refine @Json.rec motive (fun items => ∀ j ∈ items, motive j)
    (fun entries => ∀ e ∈ entries, motive e.2) (fun e => motive e.2)
    null bool integer float string (fun items h => array items h)
    (fun entries h => object entries h) ?_ ?_ ?_ ?_ ?_ j
  · simp
  · intro j items hj hi
    simpa using ⟨hj, hi⟩
  · simp
  · intro e entries he hes
    simp only [List.mem_cons, forall_eq_or_imp]
    exact ⟨he, hes⟩
  · exact fun _ _ h => h

/-! ### Depth -/

mutual

/-- How many arrays and objects are open at once at the deepest place of a value. -/
def depth : Json → Nat
  | array items => itemsDepth items + 1
  | object entries => entriesDepth entries + 1
  | _ => 0

def itemsDepth : List Json → Nat
  | [] => 0
  | item :: rest => max (depth item) (itemsDepth rest)

def entriesDepth : List (String × Json) → Nat
  | [] => 0
  | (_, value) :: rest => max (depth value) (entriesDepth rest)

end

lemma itemsDepth_le {items : List Json} {n : Nat} :
    itemsDepth items ≤ n ↔ ∀ j ∈ items, j.depth ≤ n := by
  induction items with
  | nil => simp [itemsDepth]
  | cons item rest ih => rw [itemsDepth, Nat.max_le, ih, List.forall_mem_cons]

lemma entriesDepth_le {entries : List (String × Json)} {n : Nat} :
    entriesDepth entries ≤ n ↔ ∀ e ∈ entries, e.2.depth ≤ n := by
  induction entries with
  | nil => simp [entriesDepth]
  | cons e rest ih =>
    obtain ⟨key, value⟩ := e
    rw [entriesDepth, Nat.max_le, ih, List.forall_mem_cons]

/-- Where an array is not too deep, there is a level left for its items. -/
lemma exists_level_of_array {items : List Json} {n : Nat} (h : (array items).depth ≤ n) :
    ∃ inner, n = inner + 1 ∧ ∀ j ∈ items, j.depth ≤ inner := by
  obtain _ | inner := n
  · exact absurd h (Nat.not_succ_le_zero _)
  · exact ⟨inner, rfl, itemsDepth_le.mp (Nat.le_of_succ_le_succ h)⟩

/-- Where an object is not too deep, there is a level left for its entries. -/
lemma exists_level_of_object {entries : List (String × Json)} {n : Nat}
    (h : (object entries).depth ≤ n) :
    ∃ inner, n = inner + 1 ∧ ∀ e ∈ entries, e.2.depth ≤ inner := by
  obtain _ | inner := n
  · exact absurd h (Nat.not_succ_le_zero _)
  · exact ⟨inner, rfl, entriesDepth_le.mp (Nat.le_of_succ_le_succ h)⟩

lemma depth_wrapped (j : Json) (n : Nat) : (wrapped j n).depth = j.depth + n := by
  induction n with
  | zero => rfl
  | succ n ih => rw [wrapped, depth, itemsDepth, itemsDepth, Nat.max_zero, ih, Nat.add_assoc]

lemma isCanonical_wrapped {j : Json} (h : j.IsCanonical) (n : Nat) :
    (wrapped j n).IsCanonical := by
  induction n with
  | zero => exact h
  | succ n ih => exact .array (by simpa using ih)

/-! ### Normal forms -/

lemma normalItems_eq_map (items : List Json) : normalItems items = items.map normal := by
  induction items with
  | nil => rfl
  | cons item rest ih => rw [normalItems, ih, List.map_cons]

lemma normalEntries_eq_map (entries : List (String × Json)) :
    normalEntries entries = entries.map fun e => (e.1, e.2.normal) := by
  induction entries with
  | nil => rfl
  | cons e rest ih =>
    obtain ⟨key, value⟩ := e
    rw [normalEntries, ih, List.map_cons]

section Entries

variable {α : Type}

lemma mem_insertEntry {key : String} {value : α} {entries : List (String × α)} {e : String × α}
    (h : e ∈ insertEntry key value entries) : e = (key, value) ∨ e ∈ entries := by
  induction entries with
  | nil => simpa [insertEntry] using h
  | cons f rest ih =>
    unfold insertEntry at h
    split_ifs at h with hlt heq
    · exact List.mem_cons.mp h
    · exact .inr h
    · rcases List.mem_cons.mp h with rfl | h
      · exact .inr List.mem_cons_self
      · exact (ih h).imp_right (List.mem_cons_of_mem _)

lemma mem_sortEntries {entries : List (String × α)} {e : String × α}
    (h : e ∈ sortEntries entries) : e ∈ entries := by
  induction entries with
  | nil => exact h
  | cons f rest ih =>
    rcases mem_insertEntry h with rfl | h
    · exact List.mem_cons_self
    · exact List.mem_cons_of_mem _ (ih h)

lemma insertEntry_of_lt {key : String} {value : α} {entries : List (String × α)}
    (h : ∀ k ∈ entries.map (·.1), key < k) :
    insertEntry key value entries = (key, value) :: entries := by
  obtain _ | ⟨⟨k, v⟩, rest⟩ := entries
  · rfl
  · exact if_pos (h k (by simp))

lemma sortEntries_of_increasing {entries : List (String × α)} (h : KeysIncrease entries) :
    sortEntries entries = entries := by
  induction entries with
  | nil => rfl
  | cons e rest ih =>
    have hs := List.pairwise_cons.mp h
    change insertEntry e.1 e.2 (sortEntries rest) = e :: rest
    rw [ih hs.2, insertEntry_of_lt hs.1]

end Entries

/-- A value whose objects list their keys in order is its own normal form. -/
theorem normal_of_isCanonical (j : Json) (h : j.IsCanonical) : j.normal = j := by
  induction j with
  | null => rfl
  | bool => rfl
  | integer => rfl
  | float => rfl
  | string => rfl
  | array items ih =>
    cases h with
    | array hitems =>
      have hmap : items.map normal = items := by
        rw [List.map_congr_left fun j hj => ih j hj (hitems j hj)]
        exact List.map_id items
      rw [normal, normalItems_eq_map, hmap]
  | object entries ih =>
    cases h with
    | object hkeys hvalues =>
      have hentry : ∀ e ∈ entries, (e.1, e.2.normal) = e := by
        intro e he
        rw [ih e he (hvalues e he)]
      have hmap : entries.map (fun e => (e.1, e.2.normal)) = entries := by
        rw [List.map_congr_left hentry]
        exact List.map_id entries
      rw [normal, normalEntries_eq_map, hmap, ofEntries, sortEntries_of_increasing hkeys]

/-- Normal forms are canonical. -/
theorem isCanonical_normal (j : Json) : j.normal.IsCanonical := by
  induction j with
  | null => exact .null
  | bool b => exact .bool b
  | integer n => exact .integer n
  | float x => exact .float x
  | string s => exact .string s
  | array items ih =>
    rw [normal, normalItems_eq_map]
    apply IsCanonical.array
    intro j hj
    obtain ⟨item, hitem, rfl⟩ := List.mem_map.mp hj
    exact ih item hitem
  | object entries ih =>
    rw [normal, normalEntries_eq_map, ofEntries]
    apply IsCanonical.object (keysIncrease_sortEntries _)
    intro e he
    obtain ⟨entry, hentry, rfl⟩ := List.mem_map.mp (mem_sortEntries he)
    exact ih entry hentry

theorem depth_normal_le (j : Json) : j.normal.depth ≤ j.depth := by
  induction j with
  | null => exact Nat.le_refl _
  | bool => exact Nat.le_refl _
  | integer => exact Nat.le_refl _
  | float => exact Nat.le_refl _
  | string => exact Nat.le_refl _
  | array items ih =>
    rw [normal, normalItems_eq_map, depth, depth]
    apply Nat.succ_le_succ
    rw [itemsDepth_le]
    intro j hj
    obtain ⟨item, hitem, rfl⟩ := List.mem_map.mp hj
    have hdepth : item.depth ≤ itemsDepth items := itemsDepth_le.mp (Nat.le_refl _) item hitem
    exact Nat.le_trans (ih item hitem) hdepth
  | object entries ih =>
    rw [normal, normalEntries_eq_map, ofEntries, depth, depth]
    apply Nat.succ_le_succ
    rw [entriesDepth_le]
    intro e he
    obtain ⟨entry, hentry, rfl⟩ := List.mem_map.mp (mem_sortEntries he)
    have hdepth : entry.2.depth ≤ entriesDepth entries :=
      entriesDepth_le.mp (Nat.le_refl _) entry hentry
    exact Nat.le_trans (ih entry hentry) hdepth

end RuleIntake.Json
