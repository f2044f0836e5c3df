import RuleIntake.MessagePack.Marker
import RuleIntake.MessagePack.Word
import RuleIntake.Text.Utf8
import RuleIntake.Wire.Mismatch

/-!
# Heads of values

The head of a value is its marker with the word that may follow it: a whole number, or the length
of what comes behind.
-/

namespace RuleIntake.MessagePack

inductive DecodeError
  /-- The bytes end where a value should start. -/
  | endAtMarker
  /-- The bytes end inside a word. -/
  | endInWord
  /-- The bytes end inside a string or byte string. -/
  | endInSlice
  | wrongMarker (marker : Marker)
  | wrongLength (length : Nat)
  | notUtf8 (fault : Utf8.Fault)
  | tooDeep
  | mismatch (m : Wire.Mismatch)
deriving DecidableEq

def DecodeError.text : DecodeError → String
  | endAtMarker => "IO error while reading marker: failed to fill whole buffer"
  | endInWord => "IO error while reading data: failed to fill whole buffer"
  | endInSlice => "IO error while reading data: unexpected end of file"
  | wrongMarker marker => "wrong msgpack marker " ++ marker.text
  | wrongLength length => "array had incorrect length, expected " ++ toString length
  | notUtf8 fault => "string found to be invalid utf8: " ++ fault.text
  | tooDeep => "depth limit exceeded"
  | mismatch m => m.text .messagePack

/-- Something read, and the bytes after it. -/
abbrev Outcome (α : Type) := Except DecodeError (α × List UInt8)

/-- What a value starts with. -/
inductive Head
  | nil
  | bool (b : Bool)
  | unsigned (n : Nat)
  | signed (n : Int)
  | single (bits : UInt32)
  | double (bits : UInt64)
  | string (length : Nat)
  | bytes (length : Nat)
  | array (size : Nat)
  | map (size : Nat)
  | extension (length : Nat)
deriving DecidableEq

def readWord (width : Nat) (bytes : List UInt8) : Outcome Nat :=
  match split? width bytes with
  | none => .error .endInWord
  | some (word, rest) => .ok (wordValue word, rest)

def readSlice (length : Nat) (bytes : List UInt8) : Outcome (List UInt8) :=
  match split? length bytes with
  | none => .error .endInSlice
  | some parts => .ok parts

/-- The head that a marker starts. -/
def readHeadOf (marker : Marker) (bytes : List UInt8) : Outcome Head :=
  let withWord (width : Nat) (head : Nat → Head) : Outcome Head :=
    (readWord width bytes).map fun (n, rest) => (head n, rest)
  match marker with
  | .smallPositive n => .ok (.unsigned n, bytes)
  | .smallMap size => .ok (.map size, bytes)
  | .smallArray size => .ok (.array size, bytes)
  | .smallString length => .ok (.string length, bytes)
  | .nil => .ok (.nil, bytes)
  | .reserved => .error (.wrongMarker .reserved)
  | .bool b => .ok (.bool b, bytes)
  | .bytes width => withWord width .bytes
  | .extension width => withWord width .extension
  | .single => withWord 4 fun n => .single (.ofNat n)
  | .double => withWord 8 fun n => .double (.ofNat n)
  | .unsigned width => withWord width .unsigned
  | .signed width => withWord width fun n => .signed (signedValue width n)
  | .fixedExtension length => .ok (.extension length, bytes)
  | .string width => withWord width .string
  | .array width => withWord width .array
  | .map width => withWord width .map
  | .smallNegative n => .ok (.signed n, bytes)

def readMarker : List UInt8 → Outcome Marker
  | [] => .error .endAtMarker
  | b :: rest => .ok (.ofByte b, rest)

def readHead (bytes : List UInt8) : Outcome Head :=
  match readMarker bytes with
  | .error e => .error e
  | .ok (marker, rest) => readHeadOf marker rest

def readText (length : Nat) (bytes : List UInt8) : Outcome String :=
  match readSlice length bytes with
  | .error e => .error e
  | .ok (slice, rest) =>
    match Utf8.decode slice with
    | .error fault => .error (.notUtf8 fault)
    | .ok text => .ok (text, rest)

/-! ## Refusals -/

/-- What a binary64 number is in messages. -/
def foundDouble (bits : UInt64) : Wire.Found :=
  match Binary64.ofBits? bits with
  | some x => .float x
  | none =>
    if bits.toNat % 0x10000000000000 = 0 then .infinite (0x8000000000000000 ≤ bits.toNat)
    else .notANumber

/-- What a binary32 number is in messages. -/
def foundSingle (bits : UInt32) : Wire.Found :=
  match Binary64.ofBinary32Bits? bits with
  | some x => .float x
  | none =>
    if bits.toNat % 0x800000 = 0 then .infinite (0x80000000 ≤ bits.toNat) else .notANumber

/-- Why a value with the given head is refused where something else is expected. Strings are read
first; arrays, maps and extensions take a level of depth first. -/
def refusal (expected : Wire.Expectation) (room : Nat) (head : Head) (bytes : List UInt8) :
    DecodeError :=
  let wrong (found : Wire.Found) : DecodeError := .mismatch (.invalidType found expected)
  let nested (found : Wire.Found) : DecodeError := if room = 0 then .tooDeep else wrong found
  match head with
  | .nil => wrong .nothing
  | .bool b => wrong (.bool b)
  | .unsigned n => wrong (.integer n)
  | .signed n => wrong (.integer n)
  | .single bits => wrong (foundSingle bits)
  | .double bits => wrong (foundDouble bits)
  | .string length =>
    match readText length bytes with
    | .error e => e
    | .ok (text, _) => wrong (.string text)
  | .bytes length =>
    match readSlice length bytes with
    | .error e => e
    | .ok _ => wrong .bytes
  | .array _ => nested .sequence
  | .map _ => nested .map
  | .extension _ => nested .extension

end RuleIntake.MessagePack
