import RuleIntake.Json.Decoder

/-!
# Services

A document names the service it is for by a reference whose parts may be missing; a missing part
counts as empty in the key of the service.
-/

namespace RuleIntake

structure ServiceKey where
  namespaceName : String
  service : String
deriving DecidableEq, Repr, Inhabited

/-- The service a document is for, as far as it says. -/
structure ServiceReference where
  namespaceName : Option String
  name : Option String
deriving DecidableEq, Repr, Inhabited

namespace ServiceReference

open Wire

def fields {R : Type → Type} [WireFormat R] : List (Field R ServiceReference) := [
  .of "namespace" (WireFormat.optional WireFormat.string) fun v r => { r with namespaceName := v },
  .of "name" (WireFormat.optional WireFormat.string) fun v r => { r with name := v }]

def decoder {R : Type → Type} [WireFormat R] : R ServiceReference :=
  WireFormat.record "WireService" fields ⟨none, none⟩

/-- The parts under their wire names, in declaration order. -/
def parts (r : ServiceReference) : List (String × Json) :=
  [("namespace", .ofOption .string r.namespaceName), ("name", .ofOption .string r.name)]

def toJson (r : ServiceReference) : Json := .ofEntries r.parts

end ServiceReference

namespace ServiceKey

open Json Wire

def empty : ServiceKey := ⟨"", ""⟩

def text (key : ServiceKey) : String := key.namespaceName ++ "/" ++ key.service

/-- The reference that names both parts. -/
def reference (key : ServiceKey) : ServiceReference := ⟨some key.namespaceName, some key.service⟩

/-- The parts of a key that have been read so far. -/
structure Parts where
  namespaceName : Option String
  service : Option String

def partFields : List (Field Decoder Parts) := [
  .of "namespace" Decoder.string fun v p => { p with namespaceName := some v },
  .of "service" Decoder.string fun v p => { p with service := some v }]

/-- Why an array of the given length is no key. -/
def wrongLength (length : Nat) : Mismatch := .invalidLength length (.recordOf "ServiceKey" 2)

/-- Both parts have to be there. -/
def decoder : Decoder ServiceKey := fun j => do
  let parts ← Decoder.record "ServiceKey" partFields ⟨none, none⟩ j
  match parts.namespaceName, parts.service, j with
  | some a, some b, _ => .ok ⟨a, b⟩
  | _, _, .array items => .error (wrongLength items.length)
  | none, _, _ => .error (.missingField "namespace")
  | _, none, _ => .error (.missingField "service")

def toJson (key : ServiceKey) : Json :=
  .ofEntries [("namespace", .string key.namespaceName), ("service", .string key.service)]

end ServiceKey

/-- The key of the service that a reference names. -/
def ServiceReference.key (r : ServiceReference) : ServiceKey :=
  ⟨r.namespaceName.getD "", r.name.getD ""⟩

end RuleIntake
