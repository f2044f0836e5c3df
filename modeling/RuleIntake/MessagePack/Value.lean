import RuleIntake.MessagePack.Head

/-!
# Values of any kind

Values that JSON can hold are read as JSON values; numbers that are not finite become null. Byte
strings and extensions are refused, and so are maps with keys that are no strings. Skipping takes
every kind of value. Both count how many arrays, maps and extensions may still be opened.
-/

namespace RuleIntake.MessagePack

/-- How many arrays, maps and extensions may be open at once. -/
def depthLimit : Nat := 1023

/-- As many elements as given, one after the other. -/
def readMany {α : Type} (element : List UInt8 → Outcome α) : Nat → List UInt8 → Outcome (List α)
  | 0, bytes => .ok ([], bytes)
  | n + 1, bytes =>
    match element bytes with
    | .error e => .error e
    | .ok (a, rest) => (readMany element n rest).map fun (as, after) => (a :: as, after)

/-- A string, spelled as one or as a byte string that holds UTF-8. -/
def readString (room : Nat) (bytes : List UInt8) : Outcome String :=
  match readHead bytes with
  | .error e => .error e
  | .ok (.string length, rest) => readText length rest
  | .ok (.bytes length, rest) =>
    match readText length rest with
    | .error (.notUtf8 _) => .error (.mismatch (.invalidValue .bytes .string))
    | other => other
  | .ok (head, rest) => .error (refusal .string room head rest)

/-- The first key of a map, which has to be a string. -/
def readFirstKey (room : Nat) (bytes : List UInt8) : Outcome String :=
  match readHead bytes with
  | .error e => .error e
  | .ok (.string length, rest) => readText length rest
  | .ok (head, rest) => .error (refusal .stringKey room head rest)

def readEntry (key : List UInt8 → Outcome String) (value : List UInt8 → Outcome Json)
    (bytes : List UInt8) : Outcome (String × Json) :=
  match key bytes with
  | .error e => .error e
  | .ok (k, rest) => (value rest).map fun (j, after) => ((k, j), after)

/-- The entries of a map inside which the given number of levels may be opened. -/
def readEntries (room : Nat) (value : List UInt8 → Outcome Json) :
    Nat → List UInt8 → Outcome (List (String × Json))
  | 0, bytes => .ok ([], bytes)
  | n + 1, bytes =>
    match readEntry (readFirstKey room) value bytes with
    | .error e => .error e
    | .ok (first, rest) =>
      (readMany (readEntry (readString room) value) n rest).map fun (more, after) =>
        (first :: more, after)

/-- An integer, which has at most 64 bits. -/
def integerValue (n : Int) : Json :=
  match WireInt.ofInt? n with
  | some n => .integer n
  | none => .null

/-- A number, or null if there is none. -/
def floatValue (x : Option Binary64) : Json :=
  match x with
  | some x => .float x
  | none => .null

/-- The tree that a head starts, where the given number of levels may still be opened. `nested`
reads a tree one level further in. -/
def readTreeOf (room : Nat) (nested : List UInt8 → Outcome Json) (head : Head)
    (bytes : List UInt8) : Outcome Json :=
  match head with
  | .nil => .ok (.null, bytes)
  | .bool b => .ok (.bool b, bytes)
  | .unsigned n => .ok (integerValue n, bytes)
  | .signed n => .ok (integerValue n, bytes)
  | .single bits => .ok (floatValue (Binary64.ofBinary32Bits? bits), bytes)
  | .double bits => .ok (floatValue (Binary64.ofBits? bits), bytes)
  | .string length => (readText length bytes).map fun (text, rest) => (.string text, rest)
  | .array size =>
    if room = 0 then .error .tooDeep
    else (readMany nested size bytes).map fun (items, rest) => (.array items, rest)
  | .map size =>
    if room = 0 then .error .tooDeep
    else
      (readEntries (room - 1) nested size bytes).map fun (entries, rest) =>
        (.object entries, rest)
  | .bytes _ => .error (refusal .anyValue room head bytes)
  | .extension _ => .error (refusal .anyValue room head bytes)

/-- A tree in which the given number of levels may be opened. -/
def readTree : Nat → List UInt8 → Outcome Json
  | 0, bytes =>
    match readHead bytes with
    | .error e => .error e
    | .ok (head, rest) => readTreeOf 0 (fun _ => .error .tooDeep) head rest
  | room + 1, bytes =>
    match readHead bytes with
    | .error e => .error e
    | .ok (head, rest) => readTreeOf (room + 1) (readTree room) head rest

def readValue (room : Nat) (bytes : List UInt8) : Outcome Json :=
  (readTree room bytes).map fun (tree, rest) => (tree.normal, rest)

/-! ## Skipping -/

/-- The bytes after as many elements as given. -/
def skipMany (element : List UInt8 → Except DecodeError (List UInt8)) :
    Nat → List UInt8 → Except DecodeError (List UInt8)
  | 0, bytes => .ok bytes
  | n + 1, bytes =>
    match element bytes with
    | .error e => .error e
    | .ok rest => skipMany element n rest

/-- The bytes after the value that a head starts. Inside it elements are skipped as told, if there
is a level left. -/
def skipValueOf (nested : Option (List UInt8 → Except DecodeError (List UInt8))) (head : Head)
    (bytes : List UInt8) : Except DecodeError (List UInt8) :=
  match head, nested with
  | .string length, _ => (readSlice length bytes).map (·.2)
  | .bytes length, _ => (readSlice length bytes).map (·.2)
  | .array _, none => .error .tooDeep
  | .array size, some element => skipMany element size bytes
  | .map _, none => .error .tooDeep
  | .map size, some element => skipMany element (2 * size) bytes
  | .extension _, none => .error .tooDeep
  | .extension length, some _ =>
    match readWord 1 bytes with
    | .error e => .error e
    | .ok (_, rest) => (readSlice length rest).map (·.2)
  | _, _ => .ok bytes

/-- The bytes after a value in which the given number of levels may be opened. -/
def skipValue : Nat → List UInt8 → Except DecodeError (List UInt8)
  | 0, bytes =>
    match readHead bytes with
    | .error e => .error e
    | .ok (head, rest) => skipValueOf none head rest
  | room + 1, bytes =>
    match readHead bytes with
    | .error e => .error e
    | .ok (head, rest) => skipValueOf (some (skipValue room)) head rest

end RuleIntake.MessagePack
