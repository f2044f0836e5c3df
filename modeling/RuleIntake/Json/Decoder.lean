import RuleIntake.Wire.Format
import RuleIntake.Wire.Mismatch

/-!
# Decoding JSON values

A value is decoded by its form alone. Entries of an object come in key order, so that the first
entry that goes wrong decides.
-/

namespace RuleIntake.Json

open Wire

def Decoder (α : Type) := Json → Except Mismatch α

def found : Json → Found
  | null => .nothing
  | bool b => .bool b
  | integer n => .integer n.val
  | float x => .float x
  | string s => .string s
  | array _ => .sequence
  | object _ => .map

namespace Decoder

variable {α : Type}

instance : Functor Decoder where
  map f d := fun j => (d j).map f

def string : Decoder String
  | .string s => .ok s
  | j => .error (.invalidType j.found .string)

def boolean : Decoder Bool
  | .bool b => .ok b
  | j => .error (.invalidType j.found .boolean)

def word : Decoder UInt32
  | .integer n =>
    if 0 ≤ n.val ∧ n.val < 0x100000000 then .ok (.ofNat n.val.toNat)
    else .error (.invalidValue (.integer n.val) .u32)
  | j => .error (.invalidType j.found .u32)

def optional (d : Decoder α) : Decoder (Option α)
  | .null => .ok none
  | j => (d j).map some

def list (d : Decoder α) : Decoder (List α)
  | .array items => items.mapM d
  | j => .error (.invalidType j.found .sequence)

def entries (d : Decoder α) : Decoder (List (String × α))
  | .object es => es.mapM fun e => (d e.2).map fun a => (e.1, a)
  | j => .error (.invalidType j.found .map)

def variant (v : Variants α) (name : String) : Except Mismatch α :=
  match v.ofName? name with
  | some a => .ok a
  | none => .error (.unknownVariant name v.names)

/-- A wire name, alone or as the only key of an object with the value null. -/
def enumeration (v : Variants α) : Decoder α
  | .string s => variant v s
  | .object [(key, content)] =>
    match variant v key with
    | .error e => .error e
    | .ok a =>
      match content with
      | .null => .ok a
      | j => .error (.invalidType j.found .unit)
  | .object _ => .error (.invalidValue .map .singleKeyMap)
  | j => .error (.invalidType j.found .stringOrMap)

/-- Puts the entries of an object into a record. Entries of other names are passed over. -/
def readEntries (fields : List (Field Decoder α)) : α → List (String × Json) → Except Mismatch α
  | record, [] => .ok record
  | record, (key, value) :: rest =>
    match fields.find? (·.name == key) with
    | none => readEntries fields record rest
    | some field =>
      match field.read value with
      | .error e => .error e
      | .ok put => readEntries fields (put record) rest

/-- Puts the items of an array into the fields of a record, in order. Returns the items left. -/
def readItems : List (Field Decoder α) → α → List Json → Except Mismatch (α × List Json)
  | [], record, items => .ok (record, items)
  | _ :: _, record, [] => .ok (record, [])
  | field :: fields, record, item :: rest =>
    match field.read item with
    | .error e => .error e
    | .ok put => readItems fields (put record) rest

/-- An object of named fields, or an array of fields in declaration order. -/
def record (name : String) (fields : List (Field Decoder α)) (initial : α) : Decoder α
  | .object es => readEntries fields initial es
  | .array items =>
    match readItems fields initial items with
    | .error e => .error e
    | .ok (filled, left) =>
      if left.isEmpty then .ok filled
      else .error (.invalidLength items.length .fewerElements)
  | j => .error (.invalidType j.found (.record name))

instance : WireFormat Decoder where
  string := string
  optional := optional
  anyValue := .ok
  enumeration := enumeration
  record := record

end Decoder

end RuleIntake.Json
