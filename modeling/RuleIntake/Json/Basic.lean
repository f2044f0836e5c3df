import RuleIntake.Binary64.Shortest

/-!
# JSON values

A value is a tree whose objects list their entries in the order in which they were written. What
counts is the normal form, where entries come in increasing key order, each key once, the last of
several entries with one key winning. `Json.normal` brings a tree into that form, and
`Json.IsCanonical` says that a tree is in it.
-/

namespace RuleIntake

/-- An integer of 64 bits, signed or unsigned. -/
structure WireInt where
  val : Int
  lower : -0x8000000000000000 ≤ val
  upper : val < 0x10000000000000000
deriving DecidableEq

namespace WireInt

def ofInt? (n : Int) : Option WireInt :=
  if h : -0x8000000000000000 ≤ n ∧ n < 0x10000000000000000 then some ⟨n, h.1, h.2⟩ else none

theorem ofInt?_val (n : WireInt) : ofInt? n.val = some n :=
  dif_pos ⟨n.lower, n.upper⟩

def zero : WireInt := ⟨0, by decide, by decide⟩

instance : Inhabited WireInt := ⟨zero⟩

end WireInt

/-- A JSON value. Numbers are integers of 64 bits or finite binary64 numbers. -/
inductive Json
  | null
  | bool (b : Bool)
  | integer (n : WireInt)
  | float (x : Binary64)
  | string (s : String)
  | array (items : List Json)
  | object (entries : List (String × Json))
deriving Inhabited

namespace Json

mutual

/-- Equality of values, number kinds and zeros told apart. -/
def beq : Json → Json → Bool
  | null, null => true
  | bool a, bool b => a == b
  | integer m, integer n => decide (m = n)
  | float x, float y => decide (x = y)
  | string s, string t => s == t
  | array xs, array ys => beqItems xs ys
  | object es, object fs => beqEntries es fs
  | _, _ => false

def beqItems : List Json → List Json → Bool
  | [], [] => true
  | x :: xs, y :: ys => beq x y && beqItems xs ys
  | _, _ => false

def beqEntries : List (String × Json) → List (String × Json) → Bool
  | [], [] => true
  | (j, x) :: es, (k, y) :: fs => j == k && beq x y && beqEntries es fs
  | _, _ => false

end

instance : BEq Json := ⟨beq⟩

/-! ## Entries in key order -/

/-- Adds an entry to entries in key order, unless the key has one already. -/
def insertEntry {α : Type} (key : String) (value : α) : List (String × α) → List (String × α)
  | [] => [(key, value)]
  | (k, v) :: rest =>
    if key < k then (key, value) :: (k, v) :: rest
    else if key = k then (k, v) :: rest
    else (k, v) :: insertEntry key value rest

/-- The entries in key order, the last one of each key. -/
def sortEntries {α : Type} (entries : List (String × α)) : List (String × α) :=
  entries.foldr (fun e sorted => insertEntry e.1 e.2 sorted) []

def KeysIncrease {α : Type} (entries : List (String × α)) : Prop :=
  (entries.map (·.1)).Pairwise (· < ·)

instance {α : Type} (entries : List (String × α)) : Decidable (KeysIncrease entries) :=
  inferInstanceAs (Decidable (List.Pairwise _ _))

theorem mem_keys_insertEntry {α : Type} {key k : String} {value : α} {entries : List (String × α)}
    (h : k ∈ (insertEntry key value entries).map (·.1)) : k = key ∨ k ∈ entries.map (·.1) := by
  induction entries with
  | nil => simpa [insertEntry] using h
  | cons e rest ih =>
    unfold insertEntry at h
    split at h
    · simpa using h
    · split at h
      · exact .inr h
      · rcases List.mem_cons.1 h with h | h
        · exact .inr (List.mem_cons.2 (.inl h))
        · exact (ih h).imp_right (List.mem_cons_of_mem _)

theorem keysIncrease_insertEntry {α : Type} {key : String} {value : α}
    {entries : List (String × α)} (h : KeysIncrease entries) :
    KeysIncrease (insertEntry key value entries) := by
  induction entries with
  | nil => simp [insertEntry, KeysIncrease]
  | cons e rest ih =>
    have hs := List.pairwise_cons.1 h
    unfold insertEntry
    split
    · next hlt =>
      refine List.pairwise_cons.2 ⟨fun k hk => ?_, h⟩
      rcases List.mem_cons.1 hk with hk | hk
      · exact hk ▸ hlt
      · exact String.lt_trans hlt (hs.1 k hk)
    · split
      · exact h
      · next hge hne =>
        refine List.pairwise_cons.2 ⟨fun k hk => ?_, ih hs.2⟩
        rcases mem_keys_insertEntry hk with hk | hk
        · subst hk
          exact Decidable.byContradiction fun hn =>
            hne (String.le_antisymm (String.not_lt.1 hn) (String.not_lt.1 hge))
        · exact hs.1 k hk

theorem keysIncrease_sortEntries {α : Type} (entries : List (String × α)) :
    KeysIncrease (sortEntries entries) := by
  induction entries with
  | nil => simp [sortEntries, KeysIncrease]
  | cons e rest ih => exact keysIncrease_insertEntry ih

def ofEntries (entries : List (String × Json)) : Json := object (sortEntries entries)

def ofOption {α : Type} (f : α → Json) : Option α → Json
  | none => null
  | some a => f a

def ofWord (n : UInt32) : Json :=
  integer ⟨n.toNat, by omega, by have := n.toNat_lt; omega⟩

mutual

/-- The value with the entries of all objects in key order, the last one of each key. -/
def normal : Json → Json
  | null => null
  | bool b => bool b
  | integer n => integer n
  | float x => float x
  | string s => string s
  | array items => array (normalItems items)
  | object entries => ofEntries (normalEntries entries)

def normalItems : List Json → List Json
  | [] => []
  | item :: rest => normal item :: normalItems rest

def normalEntries : List (String × Json) → List (String × Json)
  | [] => []
  | (key, value) :: rest => (key, normal value) :: normalEntries rest

end

/-- All objects in a value have their keys in strictly increasing order. -/
inductive IsCanonical : Json → Prop
  | null : IsCanonical null
  | bool (b : Bool) : IsCanonical (bool b)
  | integer (n : WireInt) : IsCanonical (integer n)
  | float (x : Binary64) : IsCanonical (float x)
  | string (s : String) : IsCanonical (string s)
  | array {items : List Json} : (∀ j ∈ items, IsCanonical j) → IsCanonical (array items)
  | object {entries : List (String × Json)} :
      KeysIncrease entries → (∀ e ∈ entries, IsCanonical e.2) → IsCanonical (object entries)

/-- The value inside the given number of arrays of one element. -/
def wrapped (value : Json) : Nat → Json
  | 0 => value
  | n + 1 => array [wrapped value n]

end Json

end RuleIntake
