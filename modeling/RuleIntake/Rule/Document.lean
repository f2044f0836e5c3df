import RuleIntake.Rule.Defaults
import RuleIntake.Rule.Inspection
import RuleIntake.Rule.RawDocument
import RuleIntake.Rule.Telling

/-!
# Rule documents

A rule document is made for each revision that is delivered. Once it is validated its rules are
complete and its patterns compiled, or it carries the error that makes its rules useless; what it
says about itself holds in either case.
-/

namespace RuleIntake

structure RuleDocument where
  service : ServiceKey
  /-- The kind of its rules, unless nothing was delivered. -/
  kind : Option RuleKind
  revision : String
  /-- The rules if there are any, or why they cannot be read. -/
  content : Except RuleError (Option Payload)
  cache : MatcherCache
  fromSnapshot : Bool
  /-- What the last validation came to. -/
  verdict : Option (Except RuleError Unit)

/-- How far a document has come. -/
inductive DocumentState
  | uninitialized
  | constructed
  | valid
  | invalid
deriving DecidableEq, Repr

def DocumentState.name : DocumentState → String
  | uninitialized => "Uninitialized"
  | constructed => "Constructed"
  | valid => "Valid"
  | invalid => "Invalid"

/-- What a validation comes to. -/
structure Validation where
  document : RuleDocument
  events : List Event
  outcome : Except RuleError Unit

namespace RuleDocument

/-! ## Views -/

def isInitialized (d : RuleDocument) : Bool := d.kind.isSome

def payload (d : RuleDocument) : Option Payload :=
  match d.content with
  | .ok p => p
  | .error _ => none

def asRouting (d : RuleDocument) : Option Routing :=
  match d.payload with
  | some (.routing r) => some r
  | _ => none

def asRateLimit (d : RuleDocument) : Option RateLimit :=
  match d.payload with
  | some (.rateLimiting r) => some r
  | _ => none

def validationError (d : RuleDocument) : Option RuleError :=
  match d.verdict with
  | some (.error e) => some e
  | _ => none

def state (d : RuleDocument) : DocumentState :=
  if d.kind.isNone then .uninitialized
  else
    match d.verdict with
    | none => .constructed
    | some (.ok _) => .valid
    | some (.error _) => .invalid

def isUsable (d : RuleDocument) : Bool := d.state == .valid

/-! ## Life of a document -/

/-- The document of a delivery that holds nothing. -/
def uninitialized : RuleDocument :=
  ⟨.empty, none, "", .ok none, .ofConfig .default, false, none⟩

/-- The document with the rules of a kind that a raw document holds. -/
def ofRaw (raw : RawDocument) (kind : RuleKind) (config : Config) : RuleDocument × List Event :=
  let service := raw.serviceKey
  let content := raw.extract kind
  let revision :=
    match content with
    | .ok payload => Payload.revisionOf payload
    | .error _ => ""
  let failure :=
    match content with
    | .ok _ => []
    | .error e => [.extractionFailed service kind e]
  (⟨service, some kind, revision, content, .ofConfig config, false, none⟩,
    failure ++ [.constructed service kind revision])

/-- Makes a document from what was delivered. Only a type that holds no rules is an error. -/
def construct (raw : Option RawDocument) (config : Config) :
    Except RuleError (RuleDocument × List Event) :=
  match raw with
  | none => .ok (uninitialized, [])
  | some raw =>
    match raw.documentType.ruleKind with
    | .error e => .error e
    | .ok kind => .ok (ofRaw raw kind config)

/-- What comes of the rules of a document: the rules completed, and their inspection. -/
def inspect (d : RuleDocument) (kind : RuleKind) :
    Except RuleError (Option Payload) × Inspection :=
  match d.content with
  | .error e => (.error e, ⟨d.cache, [], .error e⟩)
  | .ok none => (.ok none, .clean d.cache)
  | .ok (some payload) =>
    let completed := payload.withDefaults kind
    (.ok (some completed), .payload kind completed d.cache)

/-- Completes and inspects the rules. The outcome replaces that of an earlier validation. -/
def validate (d : RuleDocument) : Validation :=
  match d.kind with
  | none => ⟨d, [.validationSkipped], .ok ()⟩
  | some kind =>
    let (content, inspection) := d.inspect kind
    let summary :=
      match inspection.outcome with
      | .ok _ => .validated d.service d.revision inspection.cache.size
      | .error e => .invalid d.service d.revision e
    ⟨{ d with
        content := content
        cache := inspection.cache
        verdict := some inspection.outcome },
      inspection.events ++ [summary], inspection.outcome⟩

/-- Makes a document and validates it. An invalid document is published with its error. -/
def build (raw : Option RawDocument) (config : Config) :
    Except RuleError (RuleDocument × List Event) :=
  match construct raw config with
  | .error e => .error e
  | .ok (d, events) =>
    let v := d.validate
    let published :=
      match v.outcome with
      | .ok _ => []
      | .error e => [.publishedInvalid d.service e]
    .ok (v.document, events ++ v.events ++ published)

/-- Makes a document, validates it and tells what happens meanwhile. -/
def publish (level : LogLevel) (raw : Option RawDocument) (config : Config) :
    Except Failure (RuleDocument × List Event) :=
  telling level (build raw config)

/-- Notes that the rules come from a snapshot. Tells whether that was new. -/
def markFromSnapshot (d : RuleDocument) : Bool × RuleDocument :=
  (!d.fromSnapshot, { d with fromSnapshot := true })

end RuleDocument

/-- What is said when a document that holds no rules is made without asking whether it does. -/
def constructionPanic (e : RuleError) : String :=
  "rule document dispatch failed, non-rule document routed to rule cache: " ++ e.message

end RuleIntake
