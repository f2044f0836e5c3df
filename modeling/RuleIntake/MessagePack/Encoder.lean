import RuleIntake.Json.Basic
import RuleIntake.MessagePack.Word
import RuleIntake.Text.Utf8

/-!
# Encoding MessagePack

Every value has one encoding: integers and lengths take the shortest form that holds them, integers
that are not negative an unsigned one; numbers that are no integers take 64 bits.
-/

namespace RuleIntake.MessagePack

def withWord (marker : UInt8) (width n : Nat) : List UInt8 := marker :: wordBytes width n

/-- An unsigned integer of at most 64 bits. -/
def encodeUnsigned (n : Nat) : List UInt8 :=
  if n < 0x80 then [.ofNat n]
  else if n < 0x100 then withWord 0xCC 1 n
  else if n < 0x10000 then withWord 0xCD 2 n
  else if n < 0x100000000 then withWord 0xCE 4 n
  else withWord 0xCF 8 n

/-- The integer below zero whose distance from zero is given, of at most 63 bits and one. -/
def encodeNegative (distance : Nat) : List UInt8 :=
  if distance ≤ 0x20 then [.ofNat (0x100 - distance)]
  else if distance ≤ 0x80 then withWord 0xD0 1 (0x100 - distance)
  else if distance ≤ 0x8000 then withWord 0xD1 2 (0x10000 - distance)
  else if distance ≤ 0x80000000 then withWord 0xD2 4 (0x100000000 - distance)
  else withWord 0xD3 8 (0x10000000000000000 - distance)

def encodeInteger (n : Int) : List UInt8 :=
  if 0 ≤ n then encodeUnsigned n.toNat else encodeNegative n.natAbs

def encodeFloat (x : Binary64) : List UInt8 := withWord 0xCB 8 x.bits.toNat

/-- The head of a string of the given number of bytes. -/
def stringHead (length : Nat) : List UInt8 :=
  if length < 0x20 then [.ofNat (0xA0 + length)]
  else if length < 0x100 then withWord 0xD9 1 length
  else if length < 0x10000 then withWord 0xDA 2 length
  else withWord 0xDB 4 length

def encodeString (s : String) : List UInt8 :=
  let bytes := Utf8.encode s
  stringHead bytes.length ++ bytes

def arrayHead (size : Nat) : List UInt8 :=
  if size < 0x10 then [.ofNat (0x90 + size)]
  else if size < 0x10000 then withWord 0xDC 2 size
  else withWord 0xDD 4 size

def mapHead (size : Nat) : List UInt8 :=
  if size < 0x10 then [.ofNat (0x80 + size)]
  else if size < 0x10000 then withWord 0xDE 2 size
  else withWord 0xDF 4 size

def nilBytes : List UInt8 := [0xC0]

mutual

def encodeValue : Json → List UInt8
  | .null => nilBytes
  | .bool b => [if b then 0xC3 else 0xC2]
  | .integer n => encodeInteger n.val
  | .float x => encodeFloat x
  | .string s => encodeString s
  | .array items => arrayHead items.length ++ encodeItems items
  | .object entries => mapHead entries.length ++ encodeEntries entries

def encodeItems : List Json → List UInt8
  | [] => []
  | item :: rest => encodeValue item ++ encodeItems rest

def encodeEntries : List (String × Json) → List UInt8
  | [] => []
  | (key, value) :: rest => encodeString key ++ encodeValue value ++ encodeEntries rest

end

end RuleIntake.MessagePack
