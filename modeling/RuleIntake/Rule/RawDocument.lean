import RuleIntake.Json.Printer
import RuleIntake.Json.TextDecoder
import RuleIntake.MessagePack.Decoder
import RuleIntake.MessagePack.Encoder
import RuleIntake.Rule.Event
import RuleIntake.Rule.Payload

/-!
# Raw documents

A raw document is what is delivered: its type, the service it is for, and rules that nobody has
looked at yet. It arrives as JSON and is kept in snapshots as MessagePack.
-/

namespace RuleIntake

open Wire

structure RawDocument where
  documentType : DocumentType
  service : Option ServiceReference
  routing : Option Json
  rateLimit : Option Json
deriving Inhabited

namespace RawDocument

def blank : RawDocument := ⟨.unknown, none, none, none⟩

/-- Rules of a kind for a service. -/
def ofRules (kind : RuleKind) (key : ServiceKey) (rules : Json) : RawDocument :=
  match kind with
  | .routing => ⟨.routing, some key.reference, some rules, none⟩
  | .rateLimiting => ⟨.rateLimit, some key.reference, none, some rules⟩

def serviceKey (raw : RawDocument) : ServiceKey :=
  match raw.service with
  | some reference => reference.key
  | none => .empty

def rules (raw : RawDocument) : RuleKind → Option Json
  | .routing => raw.routing
  | .rateLimiting => raw.rateLimit

/-- Equality of all parts, the values compared as JSON. -/
def beq (a b : RawDocument) : Bool :=
  a.documentType == b.documentType && a.service == b.service && a.routing == b.routing &&
    a.rateLimit == b.rateLimit

instance : BEq RawDocument := ⟨beq⟩

/-! ## Decoding -/

def fields {R : Type → Type} [WireFormat R] : List (Field R RawDocument) := [
  .of "type" (WireFormat.enumeration DocumentType.variants) fun v d => { d with documentType := v },
  .of "service" (WireFormat.optional ServiceReference.decoder) fun v d => { d with service := v },
  .of "routing" (WireFormat.optional WireFormat.anyValue) fun v d => { d with routing := v },
  .of "rateLimit" (WireFormat.optional WireFormat.anyValue) fun v d => { d with rateLimit := v }]

def decoder {R : Type → Type} [WireFormat R] : R RawDocument :=
  WireFormat.record "RawRuleDocument" fields blank

/-- The document that a JSON value spells. -/
def ofJson (j : Json) : Except RuleError RawDocument :=
  ((decoder : Json.Decoder RawDocument) j).mapError fun m => .malformedDocument (.value m)

/-- The document that a JSON text spells. -/
def ofText (text : String) : Except RuleError RawDocument :=
  ((decoder : Json.TextDecoder RawDocument).run text).mapError fun e =>
    .malformedDocument (.text e)

/-- The document that a snapshot holds. -/
def ofSnapshot (bytes : List UInt8) : Except RuleError RawDocument :=
  ((decoder : MessagePack.Decoder RawDocument).run bytes).mapError fun e =>
    .snapshot (.decoding e)

/-! ## Encoding -/

/-- The parts under their wire names, in declaration order. -/
def parts (raw : RawDocument) : List (String × Json) :=
  [("type", .string raw.documentType.name),
    ("service", .ofOption (fun r => .object r.parts) raw.service),
    ("routing", .ofOption id raw.routing), ("rateLimit", .ofOption id raw.rateLimit)]

/-- The JSON text of the document, its parts in declaration order. -/
def text (raw : RawDocument) : String := (Json.object raw.parts).text

/-- The snapshot of the document, its parts in declaration order. -/
def snapshot (raw : RawDocument) : List UInt8 := MessagePack.encodeValue (.object raw.parts)

/-- What is told when a snapshot is made. -/
def snapshotEvent (raw : RawDocument) : Event :=
  .snapshotEncoded raw.serviceKey raw.snapshot.length

/-! ## Rules -/

/-- The rules of a kind, if the document has any. -/
def extract (raw : RawDocument) (kind : RuleKind) : Except RuleError (Option Payload) :=
  match raw.rules kind with
  | none => .ok none
  | some j =>
    match Payload.decoder kind j with
    | .error m => .error (.malformedDocument (.value m))
    | .ok payload => .ok (some payload)

end RawDocument

/-- The revision of rules that may be missing. -/
def Payload.revisionOf (payload : Option Payload) : String := (payload.bind (·.revision)).getD ""

end RuleIntake
