import Mathlib.Tactic.Common
import RuleIntake.Json.TextDecoder
import RuleIntake.Proofs.JsonShape
import RuleIntake.Proofs.TreeReading

/-!
# What texts hold

Values that are read from a text are canonical and nest at most as deep as the reader may go, and
they are null only where the word null stands. A record that is read from a text has every property
that its initial value has and that its fields keep.
-/

namespace RuleIntake

namespace Json

/-! ### Values -/

lemma depth_le_of_readTree {n : Nat} {c after : Cursor} {j : Json}
    (h : readTree n c = .ok (j, after)) : j.depth ≤ n := by
  induction n using Nat.strongRecOn generalizing c after j with
  | _ n ih =>
    obtain ⟨next, rest, start, -, hread⟩ := treeRead_of_readTree h
    cases hread with
    | @array inner items _ hitems =>
      have hdepth := hitems.forall_mem (fun _ _ _ => ih inner (Nat.lt_succ_self inner))
      exact Nat.succ_le_succ (itemsDepth_le.mpr hdepth)
    | @object inner entries _ hentries =>
      have hdepth := hentries.forall_mem (fun _ _ _ => ih inner (Nat.lt_succ_self inner))
      exact Nat.succ_le_succ (entriesDepth_le.mpr hdepth)
    | @number _ _ number => cases number <;> exact Nat.zero_le _
    | _ => exact Nat.zero_le _

lemma exists_peek_of_readTree_null {n : Nat} {c after : Cursor}
    (h : readTree n c = .ok (.null, after)) : ∃ rest, (peek c).1 = some ('n', rest) := by
  obtain ⟨next, rest, start, hpeek, hread⟩ := treeRead_of_readTree h
  generalize hj : Json.null = j at hread
  cases hread with
  | null => exact ⟨rest, by rw [hpeek]⟩
  | @number _ _ number => cases number <;> cases hj
  | _ => cases hj

/-- A value that a text can hold where so many levels may be opened, null left out. -/
structure IsReadWithin (n : Nat) (j : Json) : Prop where
  isCanonical : j.IsCanonical
  depth : j.depth ≤ n
  ne_null : j ≠ .null

lemma normal_eq_null {j : Json} : j.normal = .null ↔ j = .null := by
  cases j <;> simp [normal, ofEntries]

namespace TextDecoder

/-! ### Options -/

/-- Values that may be missing are read as missing where the word null stands. -/
lemma isReadWithin_of_optional {n : Nat} {c after : Cursor} {rules : Option Json}
    (h : optional readValue n c = .ok (rules, after)) : ∀ j ∈ rules, j.IsReadWithin n := by
  unfold optional at h
  split at h
  · obtain ⟨_, _, hend⟩ := exists_of_map_eq_ok h
    cases hend
    simp
  next ahead start hn hpeek =>
  obtain ⟨⟨j, _⟩, hj, hend⟩ := exists_of_map_eq_ok h
  cases hend
  obtain ⟨⟨tree, _⟩, htree, hend⟩ := exists_of_map_eq_ok hj
  cases hend
  rintro j ⟨⟩
  have hdepth : tree.depth ≤ n := depth_le_of_readTree htree
  have hnull : tree.normal ≠ .null := by
    intro hnull
    rw [normal_eq_null.mp hnull] at htree
    -- a null can only be read behind the letter n, which was looked for already
    obtain ⟨rest, hrest⟩ := exists_peek_of_readTree_null htree
    have hstart : start = (peek c).2 := by rw [hpeek]
    rw [hstart, peek_peek, hpeek] at hrest
    exact hn rest hrest
  exact ⟨isCanonical_normal tree, Nat.le_trans (depth_normal_le tree) hdepth, hnull⟩

/-! ### Records -/

section Records

variable {α : Type} {P : α → Prop} {fields : List (Wire.Field TextDecoder α)} {depth : Nat}

/-- Whatever a field reads, putting it into a record with a property leaves the property. -/
def Keeps (P : α → Prop) (depth : Nat) (field : Wire.Field TextDecoder α) : Prop :=
  ∀ c put after, field.read depth c = .ok (put, after) → ∀ a, P a → P (put a)

lemma keeps_of {β : Type} {name : String} {d : TextDecoder β} {put : β → α → α}
    (h : ∀ c b after, d depth c = .ok (b, after) → ∀ a, P a → P (put b a)) :
    Keeps P depth (.of name d put) := by
  intro c filled after hread
  obtain ⟨⟨b, _⟩, hb, hend⟩ := exists_of_map_eq_ok hread
  cases hend
  exact h c b _ hb

lemma readFields_keeps (hfields : ∀ field ∈ fields, Keeps P depth field) {first : Bool}
    {seen : List String} {initial a : α} {fuel : Nat} {c after : Cursor} (hinitial : P initial)
    (h : readFields fields depth first seen initial fuel c = .ok (a, after)) : P a := by
  fun_induction readFields fields depth first seen initial fuel c with
  | case1 => cases h
  | case2 => cases h
  | case3 =>
    obtain ⟨_, _, hend⟩ := exists_of_map_eq_ok h
    cases hend
    exact hinitial
  | case4 => cases h
  | case5 => cases h
  | case6 => cases h
  | case7 first seen initial fuel c start hnext key colon hkey hfind inside hcolon next hskip ih =>
    exact ih hinitial h
  | case8 => cases h
  | case9 => cases h
  | case10 => cases h
  | case11 first seen initial fuel c start hnext key colon hkey field hfind hseen inside hcolon put
      next hput ih =>
    have hfield : Keeps P depth field := hfields field (List.mem_of_find?_eq_some hfind)
    have hrecord : P (put initial) := hfield _ _ _ hput _ hinitial
    exact ih hrecord h

lemma readElements_keeps (hfields : ∀ field ∈ fields, Keeps P depth field) {first : Bool}
    {initial a : α} {c after : Cursor} (hinitial : P initial)
    (h : readElements depth first initial fields c = .ok (a, after)) : P a := by
  fun_induction readElements depth first initial fields c with
  | case1 =>
    obtain ⟨_, _, hend⟩ := exists_of_map_eq_ok h
    cases hend
    exact hinitial
  | case2 => cases h
  | case3 =>
    obtain ⟨_, _, hend⟩ := exists_of_map_eq_ok h
    cases hend
    exact hinitial
  | case4 => cases h
  | case5 first initial field fields c start hnext put next hput ih =>
    obtain ⟨hfield, hfields⟩ := List.forall_mem_cons.mp hfields
    have hrecord : P (put initial) := hfield _ _ _ hput _ hinitial
    exact ih hfields hrecord h

lemma refuse_ne_ok (expected : Wire.Expectation) (next : Char) (rest : List Char) (c : Cursor)
    (a : α) (after : Cursor) : refuse expected next rest c ≠ .ok (a, after) := by
  intro h
  simp only [refuse, Cursor.failHere, Cursor.failNext, bind, Except.bind] at h
  split_ifs at h
  all_goals split at h <;> cases h

/-- A record that is read has every property that its initial value has and that its fields keep
one level further in. -/
lemma record_keeps {name : String} {initial a : α} {c after : Cursor}
    (hfields : ∀ field ∈ fields, Keeps P depth field) (hinitial : P initial)
    (h : record name fields initial (depth + 1) c = .ok (a, after)) : P a := by
  unfold record at h
  split at h
  · cases h
  split_ifs at h
  · exact readElements_keeps hfields hinitial h
  · exact readFields_keeps hfields hinitial h
  · exact absurd h (refuse_ne_ok _ _ _ _ _ _)

end Records

lemma exists_of_run_eq_ok {α : Type} {d : TextDecoder α} {text : String} {a : α}
    (h : d.run text = .ok a) : ∃ after, d depthLimit (.ofString text) = .ok (a, after) := by
  simp only [run, bind, Except.bind] at h
  split at h
  · cases h
  next result hread =>
  obtain ⟨b, after⟩ := result
  split at h
  · cases h
  · cases h
    exact ⟨after, hread⟩

end TextDecoder

end Json

end RuleIntake
