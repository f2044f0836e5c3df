/-!
# Finite binary64 numbers

A number is kept as its 64 bits, so that the two zeros stay apart. Every operation is exact
arithmetic on naturals followed by one rounding to the nearest number, ties to even.
-/

namespace RuleIntake

/-- A binary64 number other than the infinities and NaN. -/
structure Binary64 where
  bits : UInt64
  finite : bits.toNat / 0x10000000000000 % 0x800 ≠ 2047
deriving DecidableEq

namespace Binary64

instance : Repr Binary64 := ⟨fun x n => reprPrec x.bits n⟩

/-- The number with the given bits, unless they spell an infinity or NaN. -/
def ofBits? (bits : UInt64) : Option Binary64 :=
  if h : bits.toNat / 0x10000000000000 % 0x800 ≠ 2047 then some ⟨bits, h⟩ else none

theorem ofBits?_bits (x : Binary64) : ofBits? x.bits = some x :=
  dif_pos x.finite

def zero : Binary64 := ⟨0, by decide⟩

instance : Inhabited Binary64 := ⟨zero⟩

def isNegative (x : Binary64) : Bool := x.bits.toNat / 0x8000000000000000 == 1

def magnitude (x : Binary64) : Nat := x.bits.toNat % 0x8000000000000000

def isZero (x : Binary64) : Bool := x.magnitude == 0

def negated (x : Binary64) : Binary64 :=
  (ofBits? (.ofNat (0x8000000000000000 + x.magnitude))).getD x

/-- The magnitude of a number is `coefficient * 2 ^ scale`. -/
def coefficient (x : Binary64) : Nat :=
  let fraction : Nat := x.magnitude % 0x10000000000000
  if x.magnitude < 0x10000000000000 then fraction else 0x10000000000000 + fraction

/-- The power of two that belongs to `coefficient`. -/
def scale (x : Binary64) : Int :=
  let field : Nat := x.magnitude / 0x10000000000000
  if field = 0 then -1074 else (field : Int) - 1075

def upPower (e : Int) : Nat := 1 <<< e.toNat

def numerator (x : Binary64) : Nat := x.coefficient * upPower x.scale

def denominator (x : Binary64) : Nat := upPower (-x.scale)

/-- Divides and rounds to the nearest natural, ties to even. -/
def divRound (num den : Nat) : Nat :=
  let q := num / den
  let r := num % den
  if 2 * r < den then q
  else if den < 2 * r then q + 1
  else q + q % 2

/-- The bits of the positive number nearest to `num / den`, which may be those of an infinity. The
exponent is the least one at which the coefficient has at most 53 bits. -/
def roundedBits (num den : Nat) : Nat :=
  if num = 0 then 0
  else
    let guess : Int := (num.log2 : Int) - den.log2 - 53
    let wide := num * upPower (-guess) / (den * upPower guess)
    let e := max (-1074) (if wide < 0x20000000000000 then guess else guess + 1)
    (e + 1074).toNat * 0x10000000000000 + divRound (num * upPower (-e)) (den * upPower e)

/-- The positive number nearest to `num / den`, or nothing above the greatest number. -/
def ofRatio? (num den : Nat) : Option Binary64 :=
  let bits := roundedBits num den
  if bits < 2047 * 0x10000000000000 then ofBits? (.ofNat bits) else none

def mul? (x y : Binary64) : Option Binary64 :=
  ofRatio? (x.numerator * y.numerator) (x.denominator * y.denominator)

def div? (x y : Binary64) : Option Binary64 :=
  ofRatio? (x.numerator * y.denominator) (x.denominator * y.numerator)

def ofNat (n : Nat) : Binary64 := (ofRatio? n 1).getD zero

/-- The power of ten with the given exponent, up to 308. -/
def powerOfTen (k : Nat) : Binary64 := (ofRatio? (Nat.pow 10 k) 1).getD zero

/-- Widens a binary32 number, unless its bits spell an infinity or NaN. -/
def ofBinary32Bits? (bits : UInt32) : Option Binary64 :=
  let n := bits.toNat
  let field : Nat := n / 0x800000 % 0x100
  let fraction : Nat := n % 0x800000
  if field = 255 then none
  else
    let e : Int := if field = 0 then -149 else (field : Int) - 150
    let m := if field = 0 then fraction else 0x800000 + fraction
    (ofRatio? (m * upPower e) (upPower (-e))).map fun x =>
      if n / 0x80000000 = 1 then x.negated else x

end Binary64

end RuleIntake
