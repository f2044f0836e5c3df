/-!
# UTF-8

`Utf8.decode` accepts exactly the well-formed byte sequences, in which every character has its
shortest form and no surrogate occurs. A malformed sequence is refused at the first byte of the
character that goes wrong, with the number of bytes that cannot be the start of any character.
-/

namespace RuleIntake.Utf8

inductive Fault
  /-- The bytes end inside the character that starts at the index. -/
  | incomplete (index : Nat)
  /-- The given number of bytes at the index starts no character. -/
  | invalid (index : Nat) (length : Nat)
deriving DecidableEq

def Fault.text : Fault → String
  | incomplete index => "incomplete utf-8 byte sequence from index " ++ toString index
  | invalid index length =>
    "invalid utf-8 sequence of " ++ toString length ++ " bytes from index " ++ toString index

def continues (b : UInt8) : Bool := 0x80 ≤ b && b ≤ 0xBF

/-- How many bytes follow the first byte of a character. -/
def followers? (b : UInt8) : Option Nat :=
  if b < 0x80 then some 0
  else if b < 0xC2 then none
  else if b < 0xE0 then some 1
  else if b < 0xF0 then some 2
  else if b < 0xF5 then some 3
  else none

/-- Whether the second byte can follow the first one: overlong forms, surrogates and code points
that are too great are left out. -/
def follows (first second : UInt8) : Bool :=
  if first = 0xE0 then 0xA0 ≤ second && second ≤ 0xBF
  else if first = 0xED then 0x80 ≤ second && second ≤ 0x9F
  else if first = 0xF0 then 0x90 ≤ second && second ≤ 0xBF
  else if first = 0xF4 then 0x80 ≤ second && second ≤ 0x8F
  else continues second

/-- What the first byte says about the code point. -/
def leadingBits (b : UInt8) : Nat :=
  if b < 0x80 then b.toNat
  else if b < 0xE0 then b.toNat % 32
  else if b < 0xF0 then b.toNat % 16
  else b.toNat % 8

def trailingBits (b : UInt8) : Nat := b.toNat % 64

/-- The character that starts with the given byte, and the bytes after it. -/
def decodeChar (index : Nat) (first : UInt8) (rest : List UInt8) :
    Except Fault (Char × List UInt8) :=
  match followers? first with
  | none => .error (.invalid index 1)
  | some 0 => .ok (Char.ofNat (leadingBits first), rest)
  | some more =>
    match rest with
    | [] => .error (.incomplete index)
    | b :: rest =>
      if !follows first b then .error (.invalid index 1)
      else if more = 1 then
        .ok (Char.ofNat (64 * leadingBits first + trailingBits b), rest)
      else
        match rest with
        | [] => .error (.incomplete index)
        | c :: rest =>
          if !continues c then .error (.invalid index 2)
          else if more = 2 then
            .ok (Char.ofNat (64 * (64 * leadingBits first + trailingBits b) + trailingBits c), rest)
          else
            match rest with
            | [] => .error (.incomplete index)
            | d :: rest =>
              if !continues d then .error (.invalid index 3)
              else
                .ok (Char.ofNat (64 * (64 * (64 * leadingBits first + trailingBits b) +
                  trailingBits c) + trailingBits d), rest)

/-- The characters of at most `fuel` bytes that start at the given index. -/
def decodeFrom (before : List Char) : Nat → Nat → List UInt8 → Except Fault (List Char)
  | _, _, [] => .ok before.reverse
  | 0, index, _ :: _ => .error (.incomplete index)
  | fuel + 1, index, b :: rest =>
    match decodeChar index b rest with
    | .error e => .error e
    | .ok (c, after) => decodeFrom (c :: before) fuel (index + c.utf8Size) after

def decode (bytes : List UInt8) : Except Fault String :=
  (decodeFrom [] bytes.length 0 bytes).map String.ofList

def encode (text : String) : List UInt8 := text.toList.flatMap String.utf8EncodeChar

end RuleIntake.Utf8
