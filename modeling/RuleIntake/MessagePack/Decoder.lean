import RuleIntake.MessagePack.Value
import RuleIntake.Wire.Format

/-!
# Decoding MessagePack

Records are maps from fields, arrays of fields in declaration order, or byte strings whose bytes
are the fields. Fields and variants go by name or by place. A lone byte can be asked for as a value
of any type, though only a value of any kind takes it.
-/

namespace RuleIntake.MessagePack

open Wire

/-- Decodes a value where the given number of levels may be opened, or a byte of a byte string. -/
structure Decoder (α : Type) where
  read : Nat → List UInt8 → Outcome α
  ofByte : UInt8 → Except Mismatch α

namespace Decoder

variable {α : Type}

instance : Functor Decoder where
  map f d :=
    { read := fun room bytes => (d.read room bytes).map fun (a, rest) => (f a, rest)
      ofByte := fun b => (d.ofByte b).map f }

def refuseByte (expected : Expectation) (b : UInt8) : Except Mismatch α :=
  .error (.invalidType (.integer b.toNat) expected)

def string : Decoder String := ⟨readString, refuseByte .string⟩

def anyValue : Decoder Json := ⟨readValue, fun b => .ok (integerValue b.toNat)⟩

def optional (d : Decoder α) : Decoder (Option α) where
  read room bytes :=
    match readMarker bytes with
    | .error e => .error e
    | .ok (.nil, rest) => .ok (none, rest)
    | .ok _ => (d.read room bytes).map fun (a, rest) => (some a, rest)
  ofByte := refuseByte .optional

/-! ## Names and places -/

/-- What stands for a field or a variant. -/
inductive Identifier
  | name (text : String)
  | place (index : Nat)
  | unreadable (fault : Utf8.Fault)

/-- A name spelled by the given number of bytes. -/
def readName (length : Nat) (bytes : List UInt8) : Outcome Identifier :=
  match readSlice length bytes with
  | .error e => .error e
  | .ok (slice, rest) =>
    match Utf8.decode slice with
    | .error fault => .ok (.unreadable fault, rest)
    | .ok text => .ok (.name text, rest)

/-- A string, a byte string or an unsigned integer. -/
def readIdentifier (expected : Expectation) (room : Nat) (bytes : List UInt8) :
    Outcome Identifier :=
  match readHead bytes with
  | .error e => .error e
  | .ok (.unsigned n, rest) => .ok (.place n, rest)
  | .ok (.string length, rest) => readName length rest
  | .ok (.bytes length, rest) => readName length rest
  | .ok (head, rest) => .error (refusal expected room head rest)

/-! ## Enumerations -/

/-- The value of an enumeration that an identifier stands for. -/
def variant (v : Variants α) : Identifier → Except DecodeError α
  | .name text =>
    match v.ofName? text with
    | some a => .ok a
    | none => .error (.mismatch (.unknownVariant text v.names))
  | .place index =>
    match v.ofIndex? index with
    | some a => .ok a
    | none =>
      .error (.mismatch (.invalidValue (.integer index) (.variantIndex v.named.length)))
  | .unreadable fault =>
    match v.fallback with
    | some a => .ok a
    | none => .error (.notUtf8 fault)

/-- An identifier that stands for a value of an enumeration. -/
def readVariant (v : Variants α) (room : Nat) (bytes : List UInt8) : Outcome α :=
  match readIdentifier .variantIdentifier room bytes with
  | .error e => .error e
  | .ok (identifier, rest) => (variant v identifier).map fun a => (a, rest)

/-- The only entry of a map: an identifier with the value nil. -/
def readVariantEntry (v : Variants α) (room : Nat) (bytes : List UInt8) : Outcome α :=
  match readVariant v room bytes with
  | .error e => .error e
  | .ok (a, rest) =>
    match readMarker rest with
    | .error e => .error e
    | .ok (.nil, after) => .ok (a, after)
    | .ok (marker, _) => .error (.wrongMarker marker)

def enumeration (v : Variants α) : Decoder α where
  read room bytes :=
    match readHead bytes with
    | .error e => .error e
    | .ok (.map size, rest) =>
      if size = 1 then readVariantEntry v room rest else .error (.wrongLength size)
    | .ok _ => readVariant v room bytes
  ofByte := refuseByte (.enumeration v.typeName)

/-! ## Records -/

def field? (fields : List (Field Decoder α)) : Identifier → Option (Field Decoder α)
  | .name text => fields.find? (·.name == text)
  | .place index => fields[index]?
  | .unreadable _ => none

/-- As many entries as given of a record that is spelled as a map. -/
def readFields (fields : List (Field Decoder α)) (room : Nat) (seen : List String) (record : α) :
    Nat → List UInt8 → Outcome α
  | 0, bytes => .ok (record, bytes)
  | n + 1, bytes =>
    match readIdentifier .fieldIdentifier room bytes with
    | .error e => .error e
    | .ok (identifier, rest) =>
      match field? fields identifier with
      | none =>
        match skipValue room rest with
        | .error e => .error e
        | .ok after => readFields fields room seen record n after
      | some field =>
        if seen.contains field.name then .error (.mismatch (.duplicateField field.name))
        else
          match field.read.read room rest with
          | .error e => .error e
          | .ok (put, after) => readFields fields room (field.name :: seen) (put record) n after

/-- As many elements as given of a record that is spelled as an array. Elements left over are an
error; `taken` counts those before. -/
def readElements (room : Nat) (taken : Nat) (record : α) :
    List (Field Decoder α) → Nat → List UInt8 → Outcome α
  | _, 0, bytes => .ok (record, bytes)
  | [], _ + 1, _ => .error (.wrongLength taken)
  | field :: fields, n + 1, bytes =>
    match field.read.read room bytes with
    | .error e => .error e
    | .ok (put, rest) => readElements room (taken + 1) (put record) fields n rest

/-- The bytes of a record that is spelled as a byte string. -/
def readByteFields : List (Field Decoder α) → α → List UInt8 → Except Mismatch α
  | field :: fields, record, b :: rest =>
    match field.read.ofByte b with
    | .error e => .error e
    | .ok put => readByteFields fields (put record) rest
  | _, record, _ => .ok record

def record (name : String) (fields : List (Field Decoder α)) (initial : α) : Decoder α where
  read room bytes :=
    match readHead bytes with
    | .error e => .error e
    | .ok (.map size, rest) =>
      if room = 0 then .error .tooDeep else readFields fields (room - 1) [] initial size rest
    | .ok (.array size, rest) =>
      if room = 0 then .error .tooDeep else readElements (room - 1) 0 initial fields size rest
    | .ok (.bytes length, rest) =>
      match readSlice length rest with
      | .error e => .error e
      | .ok (slice, after) =>
        match readByteFields fields initial slice with
        | .error m => .error (.mismatch m)
        | .ok filled => .ok (filled, after)
    | .ok (head, rest) => .error (refusal (.record name) room head rest)
  ofByte := refuseByte (.record name)

instance : WireFormat Decoder where
  string := string
  optional := optional
  anyValue := anyValue
  enumeration := enumeration
  record := record

/-- Decodes the value that bytes start with. Whatever follows is left alone. -/
def run (d : Decoder α) (bytes : List UInt8) : Except DecodeError α :=
  (d.read depthLimit bytes).map (·.1)

end Decoder

end RuleIntake.MessagePack
