import RuleIntake.Json.Decoder

/-!
# Match entries

Rules say by match entries what a field of a request has to look like. Only entries that match a
literal text by a regular expression need anything to be compiled.
-/

namespace RuleIntake

/-- How a value is compared. -/
inductive MatchKind
  | exact
  | regex
  | notEquals
  | isIn
  | notIn
deriving DecidableEq, Repr, Inhabited

namespace MatchKind

def name : MatchKind → String
  | exact => "EXACT"
  | regex => "REGEX"
  | notEquals => "NOT_EQUALS"
  | isIn => "IN"
  | notIn => "NOT_IN"

def all : List MatchKind := [exact, regex, notEquals, isIn, notIn]

def variants : Wire.Variants MatchKind := ⟨"MatchKind", all.map fun k => (k.name, k), none⟩

end MatchKind

/-- Where the value to compare with comes from. -/
inductive ValueKind
  | text
  | parameter
  | variableName
deriving DecidableEq, Repr, Inhabited

namespace ValueKind

def name : ValueKind → String
  | text => "TEXT"
  | parameter => "PARAMETER"
  | variableName => "VARIABLE"

def all : List ValueKind := [text, parameter, variableName]

def variants : Wire.Variants ValueKind := ⟨"ValueKind", all.map fun k => (k.name, k), none⟩

end ValueKind

/-- What one field of a request has to look like. -/
structure MatchEntry where
  kind : MatchKind
  valueKind : ValueKind
  value : String
deriving DecidableEq, Repr

namespace MatchEntry

open Json Wire

def default : MatchEntry := ⟨.exact, .text, ""⟩

instance : Inhabited MatchEntry := ⟨default⟩

/-- The value that matches everything. -/
def wildcard : String := "*"

def isWildcard (e : MatchEntry) : Bool := e.value == wildcard

/-- Whether the value is the text of a regular expression. -/
def isPattern (e : MatchEntry) : Bool := e.kind == .regex && e.valueKind == .text

def fields : List (Field Decoder MatchEntry) := [
  .of "type" (Decoder.enumeration MatchKind.variants) fun v e => { e with kind := v },
  .of "valueType" (Decoder.enumeration ValueKind.variants) fun v e => { e with valueKind := v },
  .of "value" Decoder.string fun v e => { e with value := v }]

def decoder : Decoder MatchEntry := Decoder.record "MatchString" fields default

def toJson (e : MatchEntry) : Json :=
  .ofEntries [("type", .string e.kind.name), ("valueType", .string e.valueKind.name),
    ("value", .string e.value)]

end MatchEntry

/-- Match entries under the names of fields. -/
structure MatchMetadata where
  /-- The entries in the order of the names. -/
  entries : List (String × MatchEntry)
  increasing : Json.KeysIncrease entries
deriving DecidableEq

namespace MatchMetadata

def empty : MatchMetadata := ⟨[], List.Pairwise.nil⟩

instance : Inhabited MatchMetadata := ⟨empty⟩

/-- The last entry of each name. -/
def ofEntries (entries : List (String × MatchEntry)) : MatchMetadata :=
  ⟨Json.sortEntries entries, Json.keysIncrease_sortEntries entries⟩

def decoder : Json.Decoder MatchMetadata := ofEntries <$> Json.Decoder.entries MatchEntry.decoder

def toJson (m : MatchMetadata) : Json := .ofEntries (m.entries.map fun e => (e.1, e.2.toJson))

end MatchMetadata

end RuleIntake
