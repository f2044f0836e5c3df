import RuleIntake.Json.Skip
import RuleIntake.Wire.Format

/-!
# Decoding JSON texts

A text is decoded while it is read, without a value in between: entries of an object come in the
order of the text, and a value of the wrong form is refused at its place. A named field may occur
once in an object; entries of other names are skipped.
-/

namespace RuleIntake.Json

open Wire

/-- Reads something at a cursor, where the given number of arrays and objects may still be
opened. -/
def TextDecoder (α : Type) := Nat → Cursor → Reading α

namespace TextDecoder

variable {α : Type}

instance : Functor TextDecoder where
  map f d := fun depth c => (d depth c).map fun (a, c) => (f a, c)

/-- Refuses the value at the cursor, which starts with the given character. Scalars are read to
the end first, and refused for their own faults. -/
def refuse (expected : Expectation) (next : Char) (rest : List Char) (c : Cursor) :
    Except TextError (α × Cursor) :=
  let mismatch (found : Found) (c : Cursor) : Except TextError (α × Cursor) :=
    c.failHere (.mismatch (.invalidType found expected))
  if next = 'n' then do mismatch .nothing (← readWord ['u', 'l', 'l'] (c.advance next rest))
  else if next = 't' then do
    mismatch (.bool true) (← readWord ['r', 'u', 'e'] (c.advance next rest))
  else if next = 'f' then do
    mismatch (.bool false) (← readWord ['a', 'l', 's', 'e'] (c.advance next rest))
  else if next = '-' || next.isDigit then do
    let (n, c) ← readNumber c
    mismatch n.found c
  else if next = '"' then do
    let (s, c) ← readString (c.advance next rest)
    mismatch (.string s) c
  else if next = '[' then mismatch .sequence c
  else if next = '\x7b' then mismatch .map c
  else c.failNext .expectedValue

def string : TextDecoder String := fun _ c =>
  match peek c with
  | (none, c) => c.failHere .endInValue
  | (some (next, rest), c) =>
    if next = '"' then readString (c.advance next rest) else refuse .string next rest c

def unit (c : Cursor) : Except TextError Cursor :=
  match peek c with
  | (none, c) => c.failHere .endInValue
  | (some (next, rest), c) =>
    if next = 'n' then readWord ['u', 'l', 'l'] (c.advance next rest)
    else (refuse .unit next rest c : Reading Unit).map (·.2)

def optional (d : TextDecoder α) : TextDecoder (Option α) := fun depth c =>
  match peek c with
  | (some ('n', rest), c) =>
    (readWord ['u', 'l', 'l'] (c.advance 'n' rest)).map fun c => (none, c)
  | (_, c) => (d depth c).map fun (a, c) => (some a, c)

def variant (v : Variants α) (name : String) (c : Cursor) : Reading α :=
  match v.ofName? name with
  | some a => .ok (a, c)
  | none => c.failHere (.mismatch (.unknownVariant name v.names))

/-- The wire name that is the only key of an object, behind its opening brace. -/
def variantKey (c : Cursor) : Reading String :=
  match peek c with
  | (none, c) => c.failHere .endInObject
  | (some (next, rest), c) =>
    if next = '"' then readString (c.advance next rest)
    else c.failNext (if next = '\x7d' then .expectedValue else .keyMustBeString)

/-- The only entry of an object, behind its opening brace. -/
def variantEntry (v : Variants α) (c : Cursor) : Except TextError (α × Cursor) := do
  let (name, c) ← variantKey c
  let (a, c) ← variant v name c
  let c ← unit (← readColon c)
  match peek c with
  | (none, c) => c.failHere .endInObject
  | (some (next, rest), c) =>
    if next = '\x7d' then .ok (a, c.advance next rest) else c.failHere .expectedValue

/-- A wire name, alone or as the only key of an object with the value null. -/
def enumeration (v : Variants α) : TextDecoder α := fun depth c =>
  match peek c with
  | (none, c) => c.failHere .endInValue
  | (some (next, rest), c) =>
    if next = '"' then
      match readString (c.advance next rest) with
      | .error e => .error e
      | .ok (name, c) => variant v name c
    else if next = '\x7b' then
      if depth = 0 then c.failNext .tooDeep else variantEntry v (c.advance next rest)
    else c.failNext .expectedValue

/-- Refuses a field that has occurred before. The end of the object is looked for, and the place is
behind it if it is there. -/
def refuseAgain (name : String) (c : Cursor) : Reading α :=
  let c :=
    match peek c with
    | (some ('\x7d', rest), c) => c.advance '\x7d' rest
    | (_, c) => c
  c.failHere (.mismatch (.duplicateField name))

/-- The entries of an object, up to its closing brace. -/
def readFields (fields : List (Field TextDecoder α)) (depth : Nat) (first : Bool)
    (seen : List String) (record : α) : Nat → Cursor → Reading α
  | 0, c => c.failHere .endInObject
  | fuel + 1, c =>
    match nextKey first c with
    | .error e => .error e
    | .ok (.close c) => (closeObject c).map fun c => (record, c)
    | .ok (.element c) =>
      match readString c with
      | .error e => .error e
      | .ok (key, c) =>
        match fields.find? (·.name == key) with
        | none =>
          match readColon c with
          | .error e => .error e
          | .ok c =>
            match skipValue c with
            | .error e => .error e
            | .ok c => readFields fields depth false seen record fuel c
        | some field =>
          if seen.contains key then refuseAgain key c
          else
            match readColon c with
            | .error e => .error e
            | .ok c =>
              match field.read depth c with
              | .error e => .error e
              | .ok (put, c) => readFields fields depth false (key :: seen) (put record) fuel c

/-- The elements of an array that are fields of a record in declaration order, up to the closing
bracket. -/
def readElements (depth : Nat) (first : Bool) (record : α) :
    List (Field TextDecoder α) → Cursor → Reading α
  | [], c => (closeList c).map fun c => (record, c)
  | field :: fields, c =>
    match nextElement first c with
    | .error e => .error e
    | .ok (.close c) => (closeList c).map fun c => (record, c)
    | .ok (.element c) =>
      match field.read depth c with
      | .error e => .error e
      | .ok (put, c) => readElements depth false (put record) fields c

/-- An object of named fields, or an array of fields in declaration order. -/
def record (name : String) (fields : List (Field TextDecoder α)) (initial : α) : TextDecoder α :=
  fun depth c =>
    match peek c with
    | (none, c) => c.failHere .endInValue
    | (some (next, rest), c) =>
      if next = '[' || next = '\x7b' then
        match depth with
        | 0 => c.failNext .tooDeep
        | depth + 1 =>
          let inside := c.advance next rest
          if next = '[' then readElements depth true initial fields inside
          else readFields fields depth true [] initial (rest.length + 1) inside
      else refuse (.record name) next rest c

instance : WireFormat TextDecoder where
  string := string
  optional := optional
  anyValue := readValue
  enumeration := enumeration
  record := record

/-- Decodes a text that holds one value and nothing else. -/
def run (d : TextDecoder α) (text : String) : Except TextError α := do
  let (a, c) ← d depthLimit (.ofString text)
  readEnd c
  return a

end TextDecoder

end RuleIntake.Json
