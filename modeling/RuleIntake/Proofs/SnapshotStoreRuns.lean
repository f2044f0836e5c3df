import Mathlib
import RuleIntake.Proofs.BootstrapRequests
import RuleIntake.Proofs.SnapshotIdentity

/-!
# Runs of a snapshot store

Whatever is asked of a store that was empty, it holds under each key the document that was saved
there last, unless that was removed. Since a snapshot tells the type and the service of its
document, what is made from the snapshot of a key has the kind of the key and is for its service.
-/

namespace RuleIntake

/-- What can be asked of a store. -/
inductive StoreCall
  | save (raw : RawDocument)
  | remove (key : SnapshotKey)
  | load (key : SnapshotKey)
  | bootstrap (key : SnapshotKey) (config : Config)

/-- Where a document is kept if its type holds rules. -/
def RawDocument.snapshotKey? (raw : RawDocument) : Option SnapshotKey :=
  raw.documentType.ruleKind?.map fun kind => (raw.serviceKey, kind)

namespace StoreCall

/-- A document that cannot be saved leaves the store as it is. -/
def perform : StoreCall → SnapshotStore → SnapshotStore
  | save raw, store =>
    match store.save raw with
    | .ok (saved, _) => saved
    | .error _ => store
  | remove key, store => (store.remove key).2
  | load _, store => store
  | bootstrap _ _, store => store

def run (calls : List StoreCall) (store : SnapshotStore) : SnapshotStore :=
  calls.foldl (fun store call => call.perform store) store

/-- The call saves a document under a key or removes what is kept there. -/
def Concerns : StoreCall → SnapshotKey → Prop
  | save raw, key => raw.snapshotKey? = some key
  | remove removed, key => removed = key
  | load _, _ => False
  | bootstrap _ _, _ => False

/-- A document was saved under a key, and no later call concerns the key. -/
def LastSaved (calls : List StoreCall) (key : SnapshotKey) (raw : RawDocument) : Prop :=
  ∃ before after, calls = before ++ save raw :: after ∧ raw.snapshotKey? = some key ∧
    ∀ call ∈ after, ¬call.Concerns key

end StoreCall

/-! ### Keys -/

namespace RawDocument

lemma snapshotKey?_eq_some {raw : RawDocument} {key : SnapshotKey} :
    raw.snapshotKey? = some key ↔
      raw.documentType.ruleKind? = some key.2 ∧ raw.serviceKey = key.1 := by
  rw [snapshotKey?, Option.map_eq_some_iff]
  constructor
  · rintro ⟨kind, hkind, rfl⟩
    exact ⟨hkind, rfl⟩
  · rintro ⟨hkind, hservice⟩
    exact ⟨key.2, hkind, Prod.ext hservice rfl⟩

/-- A name that is missing counts as empty, and so do all names of a service that is missing. -/
lemma serviceKey_eq_empty {raw : RawDocument} : raw.serviceKey = .empty ↔
    ∀ r ∈ raw.service, (r.namespaceName = none ∨ r.namespaceName = some "") ∧
      (r.name = none ∨ r.name = some "") := by
  have hname (s : Option String) : s.getD "" = "" ↔ s = none ∨ s = some "" := by
    cases s <;> simp
  rw [serviceKey]
  cases raw.service with
  | none => simp
  | some r => simp [ServiceReference.key, ServiceKey.empty, hname]

lemma lengthsFit_of_serviceKey {raw : RawDocument}
    (hnamespace : LengthFits raw.serviceKey.namespaceName)
    (hservice : LengthFits raw.serviceKey.service) : ∀ r ∈ raw.service, r.LengthsFit := by
  intro r hr
  have hkey : raw.serviceKey = r.key := by rw [serviceKey, hr]
  rw [hkey] at hnamespace hservice
  constructor
  · intro s hs
    rwa [ServiceReference.key, hs] at hnamespace
  · intro s hs
    rwa [ServiceReference.key, hs] at hservice

end RawDocument

/-! ### Stores -/

namespace SnapshotStore

variable {store : SnapshotStore} {key other : SnapshotKey} {raw : RawDocument}

def keys (store : SnapshotStore) : List SnapshotKey := store.snapshots.map (·.1)

lemma mem_keys : key ∈ store.keys ↔ ∃ bytes, store.snapshots.lookup key = some bytes := by
  rw [← Option.isSome_iff_exists, List.lookup_isSome_iff, keys, List.mem_map]
  simp only [beq_iff_eq, @eq_comm _ key]

lemma lookup_erase_of_ne (hne : other ≠ key) :
    (store.erase key).snapshots.lookup other = store.snapshots.lookup other := by
  obtain ⟨snapshots⟩ := store
  rw [erase]
  induction snapshots with
  | nil => rfl
  | cons e rest ih =>
    rw [List.filter_cons, List.lookup_cons]
    by_cases hkey : e.1 = key
    · have hother : (other == e.1) = false := beq_eq_false_iff_ne.mpr (hkey ▸ hne)
      rw [if_neg (by simp [hkey]), hother]
      exact ih
    · rw [if_pos (by simp [hkey]), List.lookup_cons, ih]

lemma save_of_snapshotKey? (h : raw.snapshotKey? = some key) : store.save raw =
    .ok (⟨(store.erase key).snapshots ++ [(key, raw.snapshot)]⟩, [raw.snapshotEvent]) := by
  obtain ⟨hkind, hservice⟩ := RawDocument.snapshotKey?_eq_some.mp h
  rw [save, DocumentType.ruleKind_of_ruleKind? hkind]
  simp only [hservice]

lemma save_of_snapshotKey?_eq_none (h : raw.snapshotKey? = none) :
    store.save raw = .error (.unknownRuleKind raw.documentType.name) := by
  rw [RawDocument.snapshotKey?, Option.map_eq_none_iff] at h
  rw [save, DocumentType.ruleKind, h]

/-- Each key stands once. -/
def KeysDiffer (store : SnapshotStore) : Prop := store.keys.Nodup

lemma keysDiffer_erase (h : store.KeysDiffer) : (store.erase key).KeysDiffer :=
  List.Nodup.sublist (List.Sublist.map Prod.fst List.filter_sublist) h

end SnapshotStore

/-! ### Steps -/

namespace StoreCall

variable {store : SnapshotStore} {call : StoreCall} {key : SnapshotKey} {raw : RawDocument}

lemma perform_save (h : raw.snapshotKey? = some key) : (save raw).perform store =
    ⟨(store.erase key).snapshots ++ [(key, raw.snapshot)]⟩ := by
  rw [perform, SnapshotStore.save_of_snapshotKey? h]

lemma lookup_perform_save (h : raw.snapshotKey? = some key) :
    ((save raw).perform store).snapshots.lookup key = some raw.snapshot := by
  rw [perform_save h, List.lookup_append, SnapshotStore.lookup_erase, Option.none_or,
    List.lookup_cons_self]

lemma lookup_perform_remove : ((remove key).perform store).snapshots.lookup key = none :=
  store.lookup_erase key

/-- A call leaves alone what is kept under the keys that it does not concern. -/
lemma lookup_perform_of_not_concerns (h : ¬call.Concerns key) :
    (call.perform store).snapshots.lookup key = store.snapshots.lookup key := by
  cases call with
  | save raw =>
    cases hkey : raw.snapshotKey? with
    | none => rw [perform, SnapshotStore.save_of_snapshotKey?_eq_none hkey]
    | some saved =>
      have hne : key ≠ saved := by
        rintro rfl
        exact h hkey
      have hlast : [(saved, raw.snapshot)].lookup key = none := by
        rw [List.lookup_cons, beq_eq_false_iff_ne.mpr hne, List.lookup_nil]
      rw [perform_save hkey, List.lookup_append, SnapshotStore.lookup_erase_of_ne hne, hlast,
        Option.or_none]
  | remove removed => exact SnapshotStore.lookup_erase_of_ne fun hkey => h hkey.symm
  | load _ => rfl
  | bootstrap _ _ => rfl

lemma keysDiffer_perform (h : store.KeysDiffer) : (call.perform store).KeysDiffer := by
  cases call with
  | save raw =>
    cases hkey : raw.snapshotKey? with
    | none => rwa [perform, SnapshotStore.save_of_snapshotKey?_eq_none hkey]
    | some saved =>
      have herased : saved ∉ (store.erase saved).keys := by
        rw [SnapshotStore.mem_keys, store.lookup_erase]
        simp
      rw [perform_save hkey, SnapshotStore.KeysDiffer, SnapshotStore.keys, List.map_append]
      apply List.Nodup.append (SnapshotStore.keysDiffer_erase h) (List.nodup_singleton saved)
      rw [List.disjoint_singleton]
      exact herased
  | remove removed => exact SnapshotStore.keysDiffer_erase h
  | load _ => exact h
  | bootstrap _ _ => exact h

/-! ### Runs -/

lemma run_concat (calls : List StoreCall) (call : StoreCall) (store : SnapshotStore) :
    run (calls ++ [call]) store = call.perform (run calls store) := by
  rw [run, List.foldl_append]
  rfl

lemma keysDiffer_run (calls : List StoreCall) : (run calls .empty).KeysDiffer := by
  induction calls using List.reverseRecOn with
  | nil => exact List.nodup_nil
  | append_singleton calls call ih =>
    rw [run_concat]
    exact keysDiffer_perform ih

lemma not_lastSaved_nil : ¬LastSaved [] key raw := by
  rintro ⟨before, after, hcalls, -⟩
  simp at hcalls

lemma lastSaved_concat {calls : List StoreCall} : LastSaved (calls ++ [call]) key raw ↔
    call = save raw ∧ raw.snapshotKey? = some key ∨
      LastSaved calls key raw ∧ ¬call.Concerns key := by
  constructor
  · rintro ⟨before, after, hcalls, hkey, hafter⟩
    rcases List.eq_nil_or_concat after with rfl | ⟨after, last, rfl⟩
    · left
      obtain ⟨-, hlast⟩ := List.append_inj' hcalls rfl
      exact ⟨List.singleton_inj.mp hlast, hkey⟩
    · right
      rw [List.concat_eq_append] at hcalls hafter
      rw [← List.cons_append, ← List.append_assoc] at hcalls
      obtain ⟨hearlier, hlast⟩ := List.append_inj' hcalls rfl
      rw [List.forall_mem_append, List.forall_mem_singleton] at hafter
      rw [List.singleton_inj.mp hlast]
      exact ⟨⟨before, after, hearlier, hkey, hafter.1⟩, hafter.2⟩
  · rintro (⟨rfl, hkey⟩ | ⟨⟨before, after, rfl, hkey, hafter⟩, hcall⟩)
    · exact ⟨calls, [], rfl, hkey, by simp⟩
    · refine ⟨before, after ++ [call], by simp, hkey, ?_⟩
      rw [List.forall_mem_append, List.forall_mem_singleton]
      exact ⟨hafter, hcall⟩

/-- What is kept under a key is the snapshot of the document that was saved there last. -/
theorem lookup_run (calls : List StoreCall) (key : SnapshotKey) (bytes : List UInt8) :
    (run calls .empty).snapshots.lookup key = some bytes ↔
      ∃ raw, LastSaved calls key raw ∧ raw.snapshot = bytes := by
  induction calls using List.reverseRecOn with
  | nil => simp [run, SnapshotStore.empty, not_lastSaved_nil]
  | append_singleton calls call ih =>
    simp only [run_concat, lastSaved_concat]
    by_cases hcall : call.Concerns key
    · cases call with
      | save raw =>
        rw [lookup_perform_save hcall, Option.some_inj]
        constructor
        · intro hbytes
          exact ⟨raw, .inl ⟨rfl, hcall⟩, hbytes⟩
        · rintro ⟨saved, ⟨hsaved, -⟩ | ⟨-, hnot⟩, rfl⟩
          · cases hsaved
            rfl
          · exact absurd hcall hnot
      | remove removed =>
        cases hcall
        rw [lookup_perform_remove]
        constructor
        · intro hnone
          cases hnone
        · rintro ⟨saved, ⟨hsaved, -⟩ | ⟨-, hnot⟩, -⟩
          · cases hsaved
          · exact absurd rfl hnot
      | load _ => cases hcall
      | bootstrap _ _ => cases hcall
    · have hsave (raw : RawDocument) : ¬(call = save raw ∧ raw.snapshotKey? = some key) := by
        rintro ⟨rfl, hkey⟩
        exact hcall hkey
      simp only [lookup_perform_of_not_concerns hcall, ih, hsave, hcall, false_or, not_false_iff,
        and_true]

lemma lookup_run_eq_none {calls : List StoreCall} (h : ∀ raw, ¬LastSaved calls key raw) :
    (run calls .empty).snapshots.lookup key = none := by
  rw [Option.eq_none_iff_forall_ne_some]
  intro bytes hbytes
  obtain ⟨raw, hraw, -⟩ := (lookup_run calls key bytes).mp hbytes
  exact h raw hraw

lemma load_run_eq_none {calls : List StoreCall} (h : ∀ raw, ¬LastSaved calls key raw) :
    (run calls .empty).load key = .ok none := by
  rw [SnapshotStore.load, lookup_run_eq_none h]

lemma mem_keys_run {calls : List StoreCall} :
    key ∈ (run calls .empty).keys ↔ ∃ raw, LastSaved calls key raw := by
  rw [SnapshotStore.mem_keys]
  simp only [lookup_run]
  constructor
  · rintro ⟨bytes, raw, hraw, -⟩
    exact ⟨raw, hraw⟩
  · rintro ⟨raw, hraw⟩
    exact ⟨raw.snapshot, raw, hraw, rfl⟩

lemma LastSaved.load_run {calls : List StoreCall} (h : LastSaved calls key raw) :
    (run calls .empty).load key = (RawDocument.ofSnapshot raw.snapshot).map some := by
  have hlookup := (lookup_run calls key raw.snapshot).mpr ⟨raw, h, rfl⟩
  rw [SnapshotStore.load, hlookup]

lemma LastSaved.snapshotKey? {calls : List StoreCall} (h : LastSaved calls key raw) :
    raw.snapshotKey? = some key := by
  obtain ⟨before, after, -, hkey, -⟩ := h
  exact hkey

end StoreCall

/-! ### Documents from runs -/

lemma RawDocument.exists_of_ofSnapshot_eq_error {bytes : List UInt8} {e : RuleError}
    (h : ofSnapshot bytes = .error e) : ∃ fault, e = .snapshot (.decoding fault) := by
  rw [ofSnapshot] at h
  cases hrun : (decoder : MessagePack.Decoder RawDocument).run bytes with
  | error fault =>
    rw [hrun] at h
    cases h
    exact ⟨fault, rfl⟩
  | ok read =>
    rw [hrun] at h
    cases h

namespace StoreCall

/-- Nothing is kept under a key, its snapshot cannot be read, or a document is made from it. -/
lemma bootstrap_run_cases (calls : List StoreCall) (key : SnapshotKey) (config : Config) :
    ((run calls .empty).load key = .ok none ∧ ∃ events,
        RuleIntake.bootstrap (run calls .empty).load key config = .ok (none, events)) ∨
      (∃ fault, (run calls .empty).load key = .error (.snapshot (.decoding fault)) ∧
        RuleIntake.bootstrap (run calls .empty).load key config =
          .error (.snapshot (.decoding fault))) ∨
      ∃ raw read d events, LastSaved calls key raw ∧
        RawDocument.ofSnapshot raw.snapshot = .ok read ∧
        (run calls .empty).load key = .ok (some read) ∧
        RuleIntake.bootstrap (run calls .empty).load key config = .ok (some d, events) ∧
        d.kind = some key.2 ∧ d.service = read.serviceKey := by
  by_cases hsaved : ∃ raw, LastSaved calls key raw
  · obtain ⟨raw, hraw⟩ := hsaved
    have hload := hraw.load_run
    right
    cases hread : RawDocument.ofSnapshot raw.snapshot with
    | error e =>
      left
      obtain ⟨fault, rfl⟩ := RawDocument.exists_of_ofSnapshot_eq_error hread
      rw [hread] at hload
      exact ⟨fault, hload, bootstrap_of_error hload⟩
    | ok read =>
      right
      obtain ⟨htype, -⟩ := RawDocument.identity_of_ofSnapshot hread
      obtain ⟨hkind, -⟩ := RawDocument.snapshotKey?_eq_some.mp hraw.snapshotKey?
      rw [← htype] at hkind
      rw [hread] at hload
      obtain ⟨told, hseeded, -⟩ := bootstrap_of_sameKind hload hkind config
      obtain ⟨hsame, hservice, -⟩ := RuleDocument.validate_ofRaw_marked read key.2 config
      exact ⟨raw, read, _, told, hraw, hread, hload, hseeded, hsame, hservice⟩
  · have hload := load_run_eq_none (not_exists.mp hsaved)
    exact .inl ⟨hload, _, bootstrap_of_none hload⟩

/-- A document that is read from the snapshot of a key is for the service of the key, unless a name
is too long for a snapshot to tell. -/
lemma LastSaved.serviceKey_read {calls : List StoreCall} {read : RawDocument}
    (h : LastSaved calls key raw) (hread : RawDocument.ofSnapshot raw.snapshot = .ok read)
    (hnamespace : LengthFits key.1.namespaceName) (hname : LengthFits key.1.service) :
    read.serviceKey = key.1 := by
  obtain ⟨-, hsaved⟩ := RawDocument.snapshotKey?_eq_some.mp h.snapshotKey?
  obtain ⟨-, hreference⟩ := RawDocument.identity_of_ofSnapshot hread
  rw [← hsaved] at hnamespace hname
  have hsame := hreference (RawDocument.lengthsFit_of_serviceKey hnamespace hname)
  rw [← hsaved, RawDocument.serviceKey, RawDocument.serviceKey, hsame]

/-- The size of a store counts the keys under which there is a document. -/
lemma exists_keys_run (calls : List StoreCall) :
    ∃ keys : Finset SnapshotKey, keys.card = (run calls .empty).size ∧
      ∀ k, k ∈ keys ↔ ∃ raw, LastSaved calls k raw := by
  refine ⟨(run calls .empty).keys.toFinset, ?_, ?_⟩
  · rw [List.toFinset_card_of_nodup (keysDiffer_run calls), SnapshotStore.keys, List.length_map,
      SnapshotStore.size]
  · intro k
    rw [List.mem_toFinset, mem_keys_run]

/-- Whatever is asked of a store that was empty, it holds for each key the document that was saved
last. The names of a key have to be short enough for a snapshot to tell them. -/
theorem run_holds_lastSaved (calls : List StoreCall) (key : SnapshotKey) (config : Config) :
    let store := run calls .empty
    -- what is loaded is the document that was saved last and not removed
    ((∀ raw, ¬LastSaved calls key raw) → store.load key = .ok none) ∧
    (∀ raw, LastSaved calls key raw →
      store.load key = (RawDocument.ofSnapshot raw.snapshot).map some) ∧
    (∀ raw : RawDocument, raw.serviceKey = .empty ↔
      ∀ r ∈ raw.service, (r.namespaceName = none ∨ r.namespaceName = some "") ∧
        (r.name = none ∨ r.name = some "")) ∧
    -- the size counts the keys under which there is one
    (∃ keys : Finset SnapshotKey, keys.card = store.size ∧
      ∀ k, k ∈ keys ↔ ∃ raw, LastSaved calls k raw) ∧
    -- removing tells whether there was one, and touches no other key
    ((store.remove key).1 = true ↔ ∃ raw, LastSaved calls key raw) ∧
    (store.remove key).2.load key = .ok none ∧
    (∀ other, other ≠ key → (store.remove key).2.load other = store.load other) ∧
    -- only a document whose type holds no rules is refused, and nothing is changed then
    (∀ raw, (∃ e, store.save raw = .error e) ↔ raw.documentType.ruleKind? = none) ∧
    (∀ raw e, store.save raw = .error e → (save raw).perform store = store) ∧
    -- a document is made if one can be loaded, and it is of the kind and for the service of the key
    ((∃ d events, RuleIntake.bootstrap store.load key config = .ok (some d, events)) ↔
      ∃ read, store.load key = .ok (some read)) ∧
    (∀ d events, RuleIntake.bootstrap store.load key config = .ok (some d, events) →
      d.kind = some key.2 ∧
        (∃ read, store.load key = .ok (some read) ∧ d.service = read.serviceKey) ∧
        (LengthFits key.1.namespaceName → LengthFits key.1.service → d.service = key.1) ∧
        -- and it is published as far as it can be told
        ∀ level, ComesTo (publishSnapshot level store.load key config) (some d)
          (config.CanTell level d)) ∧
    ∀ e, RuleIntake.bootstrap store.load key config = .error e →
      ∃ fault, e = .snapshot (.decoding fault) := by
  intro store
  refine ⟨load_run_eq_none, fun raw hraw => hraw.load_run,
    fun raw => RawDocument.serviceKey_eq_empty, exists_keys_run calls, ?_, ?_, ?_, ?_, ?_, ?_, ?_,
    ?_⟩
  · rw [← mem_keys_run, SnapshotStore.mem_keys, ← Option.isSome_iff_exists]
    exact Iff.rfl
  · rw [SnapshotStore.load, SnapshotStore.remove, SnapshotStore.lookup_erase]
  · intro other hne
    rw [SnapshotStore.load, SnapshotStore.remove, SnapshotStore.lookup_erase_of_ne hne]
    rfl
  · intro raw
    rw [SnapshotStore.save, DocumentType.ruleKind]
    cases raw.documentType.ruleKind? <;> simp
  · intro raw e he
    rw [perform, he]
  · rcases bootstrap_run_cases calls key config with ⟨hload, events, h⟩ | ⟨fault, hload, h⟩ |
      ⟨raw, read, d, events, -, -, hload, h, -⟩ <;>
      simp [store, hload, h]
  · intro d events hd
    have hpublish := comesTo_of_bootstrap hd
    rcases bootstrap_run_cases calls key config with ⟨-, told, h⟩ | ⟨fault, -, h⟩ |
      ⟨raw, read, made, told, hraw, hread, hload, h, hkind, hservice⟩ <;>
      cases hd.symm.trans h
    refine ⟨hkind, ⟨read, hload, hservice⟩, fun hnamespace hname => ?_, hpublish⟩
    rw [hservice]
    exact hraw.serviceKey_read hread hnamespace hname
  · intro e he
    rcases bootstrap_run_cases calls key config with ⟨-, told, h⟩ | ⟨fault, -, h⟩ |
      ⟨raw, read, made, told, -, -, -, h, -⟩ <;>
      cases he.symm.trans h
    exact ⟨fault, rfl⟩

def unnamed (service : Option ServiceReference) : RawDocument := ⟨.rateLimit, service, none, none⟩

/-- A missing service and an empty name share a key, the names that are missing being empty. -/
def sharedKeyCalls : List StoreCall :=
  [save (unnamed none), save ⟨.services, none, none, none⟩, remove (.empty, .routing),
    save (unnamed (some ⟨some "", none⟩)), load (.empty, .rateLimiting)]

lemma lastSaved_sharedKeyCalls : LastSaved sharedKeyCalls (.empty, .rateLimiting)
    (unnamed (some ⟨some "", none⟩)) := by
  refine ⟨[save (unnamed none), save ⟨.services, none, none, none⟩, remove (.empty, .routing)],
    [load (.empty, .rateLimiting)], rfl, rfl, ?_⟩
  rw [List.forall_mem_singleton]
  exact id

/-- The document that was saved second is the only one. -/
theorem run_sharedKeyCalls_holds :
    let store := run sharedKeyCalls .empty
    store.size = 1 ∧
      store.load (.empty, .rateLimiting) = .ok (some (unnamed (some ⟨some "", none⟩))) ∧
      ∃ d events, RuleIntake.bootstrap store.load (.empty, .rateLimiting) .default =
        .ok (some d, events) ∧ d.kind = some .rateLimiting ∧ d.service = .empty := by
  intro store
  obtain ⟨-, hload, -, -, -, -, -, -, -, hmade, hidentity, -⟩ :=
    run_holds_lastSaved sharedKeyCalls (.empty, .rateLimiting) .default
  have hread : RawDocument.ofSnapshot (unnamed (some ⟨some "", none⟩)).snapshot =
      .ok (unnamed (some ⟨some "", none⟩)) := rfl
  have hsecond : store.load (.empty, .rateLimiting) =
      .ok (some (unnamed (some ⟨some "", none⟩))) := by
    rw [hload _ lastSaved_sharedKeyCalls, hread]
    rfl
  obtain ⟨d, events, hd⟩ := hmade.mpr ⟨_, hsecond⟩
  obtain ⟨hkind, -, hservice, -⟩ := hidentity d events hd
  exact ⟨rfl, hsecond, d, events, hd, hkind, hservice (by decide) (by decide)⟩

end StoreCall

end RuleIntake
