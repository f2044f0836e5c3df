/-!
# Markers

The first byte of a value is its marker. It says what kind of value follows, and holds small
integers and small lengths itself. Widths are numbers of bytes.
-/

namespace RuleIntake.MessagePack

/-- The kinds of first bytes. -/
inductive Marker
  | smallPositive (n : Nat)
  | smallMap (size : Nat)
  | smallArray (size : Nat)
  | smallString (length : Nat)
  | nil
  | reserved
  | bool (b : Bool)
  | bytes (width : Nat)
  | extension (width : Nat)
  | single
  | double
  | unsigned (width : Nat)
  | signed (width : Nat)
  | fixedExtension (length : Nat)
  | string (width : Nat)
  | array (width : Nat)
  | map (width : Nat)
  | smallNegative (n : Int)
deriving DecidableEq

namespace Marker

def ofByte (byte : UInt8) : Marker :=
  let b := byte.toNat
  if b < 0x80 then smallPositive b
  else if b < 0x90 then smallMap (b - 0x80)
  else if b < 0xA0 then smallArray (b - 0x90)
  else if b < 0xC0 then smallString (b - 0xA0)
  else if b = 0xC0 then nil
  else if b = 0xC1 then reserved
  else if b < 0xC4 then bool (b == 0xC3)
  else if b < 0xC7 then bytes (1 <<< (b - 0xC4))
  else if b < 0xCA then extension (1 <<< (b - 0xC7))
  else if b = 0xCA then single
  else if b = 0xCB then double
  else if b < 0xD0 then unsigned (1 <<< (b - 0xCC))
  else if b < 0xD4 then signed (1 <<< (b - 0xD0))
  else if b < 0xD9 then fixedExtension (1 <<< (b - 0xD4))
  else if b < 0xDC then string (1 <<< (b - 0xD9))
  else if b < 0xDE then array (1 <<< (b - 0xDC + 1))
  else if b < 0xE0 then map (1 <<< (b - 0xDE + 1))
  else smallNegative ((b : Int) - 256)

def bracketed (n : Nat) : String := "(" ++ toString n ++ ")"

def widthText (width : Nat) : String := toString (8 * width)

def text : Marker → String
  | smallPositive n => "FixPos" ++ bracketed n
  | smallMap size => "FixMap" ++ bracketed size
  | smallArray size => "FixArray" ++ bracketed size
  | smallString length => "FixStr" ++ bracketed length
  | nil => "Null"
  | reserved => "Reserved"
  | bool b => if b then "True" else "False"
  | bytes width => "Bin" ++ widthText width
  | extension width => "Ext" ++ widthText width
  | single => "F32"
  | double => "F64"
  | unsigned width => "U" ++ widthText width
  | signed width => "I" ++ widthText width
  | fixedExtension length => "FixExt" ++ toString length
  | string width => "Str" ++ widthText width
  | array width => "Array" ++ widthText width
  | map width => "Map" ++ widthText width
  | smallNegative n => "FixNeg(" ++ toString n ++ ")"

end Marker

end RuleIntake.MessagePack
