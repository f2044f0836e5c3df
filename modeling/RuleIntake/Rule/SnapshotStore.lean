import RuleIntake.Rule.Document

/-!
# Snapshots

A store keeps the last snapshot of the rules of each kind for each service. Until new rules are
delivered, documents are made from snapshots.
-/

namespace RuleIntake

/-- Whose rules of which kind a snapshot holds. -/
abbrev SnapshotKey := ServiceKey × RuleKind

/-- Encoded documents by key, each key once. -/
structure SnapshotStore where
  snapshots : List (SnapshotKey × List UInt8)

namespace SnapshotStore

def empty : SnapshotStore := ⟨[]⟩

def size (store : SnapshotStore) : Nat := store.snapshots.length

def isEmpty (store : SnapshotStore) : Bool := store.snapshots.isEmpty

def erase (store : SnapshotStore) (key : SnapshotKey) : SnapshotStore :=
  ⟨store.snapshots.filter (·.1 ≠ key)⟩

/-- Removes a snapshot. Tells whether there was one. -/
def remove (store : SnapshotStore) (key : SnapshotKey) : Bool × SnapshotStore :=
  ((store.snapshots.lookup key).isSome, store.erase key)

/-- Keeps a document, in place of an earlier one of its kind for its service. -/
def save (store : SnapshotStore) (raw : RawDocument) :
    Except RuleError (SnapshotStore × List Event) :=
  match raw.documentType.ruleKind with
  | .error e => .error e
  | .ok kind =>
    let key := (raw.serviceKey, kind)
    .ok (⟨(store.erase key).snapshots ++ [(key, raw.snapshot)]⟩, [raw.snapshotEvent])

/-- The document of a key. -/
def load (store : SnapshotStore) (key : SnapshotKey) : Except RuleError (Option RawDocument) :=
  match store.snapshots.lookup key with
  | none => .ok none
  | some bytes => (RawDocument.ofSnapshot bytes).map some

end SnapshotStore

/-- Makes a document from the snapshot that was loaded for a key. -/
def bootstrapFrom (loaded : Except RuleError (Option RawDocument)) (key : SnapshotKey)
    (config : Config) : Except RuleError (Option RuleDocument × List Event) :=
  match loaded with
  | .error e => .error e
  | .ok none => .ok (none, [.snapshotMissing key.1 key.2])
  | .ok (some raw) =>
    match raw.documentType.ruleKind with
    | .error e => .error e
    | .ok held =>
      if held ≠ key.2 then .error (.snapshot (.wrongKind key.1 held key.2))
      else
        match RuleDocument.build (some raw) config with
        | .error e => .error e
        | .ok (d, events) =>
          let warning :=
            match d.validationError with
            | none => []
            | some e => [.snapshotInvalid key.1 e]
          .ok (some d.markFromSnapshot.2,
            events ++ warning ++ [.bootstrapped key.1 key.2 d.revision])

/-- Makes a document from the snapshot of a key in a store, which is asked by `load`. -/
def bootstrap (load : SnapshotKey → Except RuleError (Option RawDocument)) (key : SnapshotKey)
    (config : Config) : Except RuleError (Option RuleDocument × List Event) :=
  bootstrapFrom (load key) key config

/-- Makes a document from the snapshot of a key and tells what happens meanwhile. -/
def publishSnapshot (level : LogLevel)
    (load : SnapshotKey → Except RuleError (Option RawDocument)) (key : SnapshotKey)
    (config : Config) : Except Failure (Option RuleDocument × List Event) :=
  telling level (bootstrap load key config)

end RuleIntake
