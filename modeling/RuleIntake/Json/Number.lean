import RuleIntake.Json.TextError

/-!
# Reading numbers

An integer that fits 64 bits stays an integer; minus zero and every other number become binary64.
The digits of such a number are taken up while they fit an unsigned 64-bit significand, the rest
only count for the exponent; the significand is rounded, and scaled by a power of ten with another
rounding. The result can be off by one unit in the last place, which the documents live with.
-/

namespace RuleIntake.Json

inductive Number
  | integer (n : WireInt)
  | float (x : Binary64)
deriving DecidableEq

namespace Number

def toJson : Number → Json
  | integer n => .integer n
  | float x => .float x

def found : Number → Wire.Found
  | integer n => .integer n.val
  | float x => .float x

/-- Takes up digits while the significand fits 64 bits, and returns the ones left over. -/
def absorb (significand : Nat) : List Nat → Nat × List Nat
  | [] => (significand, [])
  | d :: rest =>
    if 10 * significand + d < 0x10000000000000000 then absorb (10 * significand + d) rest
    else (significand, d :: rest)

/-- Multiplies by `10 ^ exponent`, in steps of 308 below. Nothing if the result is too great. Two
steps bring every 64-bit significand to zero. -/
def scaled (x : Binary64) (exponent : Int) : Nat → Option Binary64
  | 0 => some .zero
  | steps + 1 =>
    if exponent.natAbs ≤ 308 then
      if 0 ≤ exponent then x.mul? (.powerOfTen exponent.natAbs)
      else x.div? (.powerOfTen exponent.natAbs)
    else if x.isZero then some x
    else if 0 ≤ exponent then none
    else (x.div? (.powerOfTen 308)).bind fun y => scaled y (exponent + 308) steps

def ofParts? (negative : Bool) (significand : Nat) (exponent : Int) : Option Binary64 :=
  (scaled (.ofNat significand) exponent 4).map fun x => if negative then x.negated else x

/-- The number without fraction and exponent: an integer if 64 bits are enough, not for `-0`. -/
def ofInteger (negative : Bool) (significand : Nat) : Number :=
  let n : Int := if negative then -significand else significand
  let kept := if negative && significand = 0 then none else WireInt.ofInt? n
  match kept with
  | some n => integer n
  | none =>
    let x := Binary64.ofNat significand
    float (if negative then x.negated else x)

def ofDigits (digits : List Nat) : Nat := digits.foldl (fun n d => 10 * n + d) 0

/-- How many digits it takes to pass the greatest exponent. -/
def overflowPlace? (digits : List Nat) : Option Nat :=
  (List.range digits.length).findSome? fun k =>
    if ofDigits (digits.take (k + 1)) < 0x80000000 then none else some (k + 1)

end Number

/-- The exponent after its letter: whether it is negative, its digits, and where they start. -/
def readExponent (c : Cursor) : Reading (Bool × List Nat × Position) :=
  let (negative, c) :=
    match c.rest with
    | '+' :: rest => (false, c.advance '+' rest)
    | '-' :: rest => (true, c.advance '-' rest)
    | _ => (false, c)
  match c.rest with
  | [] => c.failHere .endInValue
  | d :: _ =>
    if d.isDigit then
      let (digits, after) := c.takeDigits
      .ok ((negative, digits, c.position), after)
    else
      c.failNext .invalidNumber

/-- The digits before the point. A zero stands alone. -/
def readWhole (c : Cursor) : Reading (List Nat) :=
  match c.rest with
  | [] => c.failHere .endInValue
  | '0' :: rest =>
    let after := c.advance '0' rest
    match rest with
    | d :: _ => if d.isDigit then after.failNext .invalidNumber else .ok ([0], after)
    | [] => .ok ([0], after)
  | d :: _ => if d.isDigit then .ok c.takeDigits else c.failNext .invalidNumber

def readFraction (c : Cursor) : Reading (Option (List Nat)) :=
  match c.rest with
  | '.' :: rest =>
    let (digits, after) := (c.advance '.' rest).takeDigits
    if digits.isEmpty then
      if after.rest.isEmpty then after.failHere .endInValue else after.failNext .invalidNumber
    else
      .ok (some digits, after)
  | _ => .ok (none, c)

def readExponent? (c : Cursor) : Reading (Option (Bool × List Nat × Position)) :=
  match c.rest with
  | 'e' :: rest => (readExponent (c.advance 'e' rest)).map fun (e, after) => (some e, after)
  | 'E' :: rest => (readExponent (c.advance 'E' rest)).map fun (e, after) => (some e, after)
  | _ => .ok (none, c)

def readUnsigned (negative : Bool) (c : Cursor) : Except TextError (Number × Cursor) := do
  let (whole, c) ← readWhole c
  let (fraction, c) ← readFraction c
  let (exponent, c) ← readExponent? c
  let (significand, skipped) := Number.absorb 0 whole
  let (significand, unread) := Number.absorb significand (fraction.getD [])
  let start : Int := skipped.length - ((fraction.getD []).length - unread.length : Nat)
  let scaledTo (e : Int) : Reading Number :=
    match Number.ofParts? negative significand e with
    | some x => .ok (.float x, c)
    | none => c.failHere .numberOutOfRange
  match exponent with
  | none =>
    if fraction.isNone && skipped.isEmpty then .ok (Number.ofInteger negative significand, c)
    else scaledTo start
  | some (below, digits, place) =>
    match Number.overflowPlace? digits with
    | some k =>
      if significand ≠ 0 && !below then
        .error ⟨.numberOutOfRange, ⟨place.line, place.column + k⟩⟩
      else
        .ok (.float (if negative then Binary64.zero.negated else .zero), c)
    | none =>
      let e : Int := Number.ofDigits digits
      scaledTo (if below then start - e else start + e)

def readNumber (c : Cursor) : Reading Number :=
  match c.rest with
  | '-' :: rest => readUnsigned true (c.advance '-' rest)
  | _ => readUnsigned false c

/-- The place after a number, whose value is not taken. The end of the text is no fault of its own
here. -/
def skipNumber (c : Cursor) : Except TextError Cursor :=
  let unsigned :=
    match c.rest with
    | '-' :: rest => c.advance '-' rest
    | _ => c
  let parts : Except TextError Cursor := do
    let (_, c) ← readWhole unsigned
    let (_, c) ← readFraction c
    let (_, c) ← readExponent? c
    return c
  match parts with
  | .error ⟨.endInValue, place⟩ => .error ⟨.invalidNumber, place⟩
  | other => other

end RuleIntake.Json
