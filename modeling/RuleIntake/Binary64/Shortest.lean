import RuleIntake.Binary64.Basic

/-!
# Shortest decimal text

A number is written with the fewest digits that read back as the same number; of several texts of
that length the nearest one is taken. An exact tie goes to the even last digit in the text of a
number, and away from zero in the text without an exponent. `Decimal` is the digits and their
exponent, which `positional` and `text` lay out.
-/

namespace RuleIntake

/-- The number `digits * 10 ^ exponent`. -/
structure Decimal where
  digits : Nat
  exponent : Int
deriving DecidableEq, Repr

namespace Decimal

def upPower (e : Int) : Nat := Nat.pow 10 e.toNat

/-- Moves zeros at the end of the digits into the exponent. -/
def trim (fuel : Nat) (d : Decimal) : Decimal :=
  match fuel with
  | 0 => d
  | fuel + 1 =>
    if d.digits ≠ 0 ∧ d.digits % 10 = 0 then trim fuel ⟨d.digits / 10, d.exponent + 1⟩ else d

def digitText (d : Decimal) : String := toString d.digits

def leadingExponent (d : Decimal) : Int := d.exponent + d.digitText.length - 1

def zeros (n : Int) : String := String.ofList (List.replicate n.toNat '0')

/-- The text without an exponent, always with a point and a digit on both sides of it. -/
def positional (d : Decimal) : String :=
  let ds := d.digitText
  let point := d.exponent + ds.length
  if point ≤ 0 then "0." ++ zeros (-point) ++ ds
  else if point ≥ ds.length then ds ++ zeros (point - ds.length) ++ ".0"
  else
    String.ofList (ds.toList.take point.toNat) ++ "." ++ String.ofList (ds.toList.drop point.toNat)

/-- One digit, the others after a point, and a signed exponent. -/
def scientific (d : Decimal) : String :=
  let e := d.leadingExponent
  let mantissa :=
    match d.digitText.toList with
    | [] => ""
    | [c] => c.toString
    | c :: rest => c.toString ++ "." ++ String.ofList rest
  mantissa ++ (if e < 0 then "e-" else "e+") ++ toString e.natAbs

/-- Positional from `10 ^ -5` up to below `10 ^ 16`, else scientific. -/
def text (d : Decimal) : String :=
  if d.digits = 0 ∨ (-5 ≤ d.leadingExponent ∧ d.leadingExponent < 16) then d.positional
  else d.scientific

end Decimal

namespace Binary64

/-- The exponent of the first decimal digit of a positive fraction. -/
def decimalExponent (num den : Nat) : Int :=
  let guess := ((num.log2 : Int) - den.log2 + 1) * 30103 / 100000
  let reaches (k : Int) : Bool := den * Decimal.upPower k ≤ num * Decimal.upPower (-k)
  if reaches (guess + 1) then guess + 1
  else if reaches guess then guess
  else if reaches (guess - 1) then guess - 1
  else guess - 2

/-- The numbers that round to a given positive one lie between `low / 4` and `high / 4` units in
its last place; the ends belong to them if the coefficient is even. -/
structure RoundingInterval where
  low : Nat
  centre : Nat
  high : Nat
  closed : Bool

def roundingInterval (x : Binary64) : RoundingInterval :=
  let m := x.coefficient
  let narrow := m = 0x10000000000000 ∧ x.scale ≠ -1074
  ⟨if narrow then 4 * m - 1 else 4 * m - 2, 4 * m, 4 * m + 2, m % 2 = 0⟩

inductive TieRule
  | toEven
  | awayFromZero
deriving DecidableEq, Repr

/-- Whether the upper one of two neighbours is taken, of which the lower one is given. -/
def TieRule.goesUp (rule : TieRule) (below : Nat) : Bool :=
  match rule with
  | toEven => below % 2 = 1
  | awayFromZero => true

/-- The multiple of `10 ^ t` that reads back as `x` and is nearest to it, if there is one among its
two neighbours. -/
def onGrid? (tie : TieRule) (x : Binary64) (t : Int) : Option Decimal :=
  let i := x.roundingInterval
  let s := x.scale - 2
  let a := Decimal.upPower t * upPower (-s)
  let b := Decimal.upPower (-t) * upPower s
  let below := i.centre * b / a
  let inside (d : Nat) : Bool :=
    if i.closed then i.low * b ≤ d * a && d * a ≤ i.high * b
    else i.low * b < d * a && d * a < i.high * b
  let above := below + 1
  match inside below, inside above with
  | false, false => none
  | true, false => some ⟨below, t⟩
  | false, true => some ⟨above, t⟩
  | true, true =>
    let down := i.centre * b - below * a
    let up := above * a - i.centre * b
    if down < up then some ⟨below, t⟩
    else if up < down then some ⟨above, t⟩
    else some ⟨if tie.goesUp below then above else below, t⟩

/-- Tries the grids of 1, 2, ... 17 digits. -/
def shortest (tie : TieRule) (x : Binary64) : Decimal :=
  if x.isZero then ⟨0, 0⟩
  else
    let k := decimalExponent x.numerator x.denominator
    let found := (List.range 17).findSome? fun (n : Nat) => x.onGrid? tie (k - n)
    ((found.getD ⟨0, 0⟩).trim 20)

def text (x : Binary64) : String :=
  (if x.isNegative then "-" else "") ++ (x.shortest .toEven).text

def plainText (x : Binary64) : String :=
  (if x.isNegative then "-" else "") ++ (x.shortest .awayFromZero).positional

end Binary64

end RuleIntake
