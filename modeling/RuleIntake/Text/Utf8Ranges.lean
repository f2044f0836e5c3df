import RuleIntake.Unicode.CharSet

/-!
# Sets of characters in UTF-8

The characters of an interval are, in UTF-8, the byte strings of a few sequences of byte ranges.
Characters with encodings of different lengths lie in different sequences. Of one length, an
interval is split where a leading byte changes, unless all that can follow it belongs to the
interval.
-/

namespace RuleIntake.Utf8

structure ByteRange where
  first : Nat
  last : Nat
deriving DecidableEq, Repr

/-- The ranges of the trailing bytes for numbers from `low` to `high` of that many digits, 64 being
the base. The first digit takes whatever is left. -/
def digitRanges : Nat → Nat → Nat → List (List ByteRange)
  | 0, low, high => [[⟨low, high⟩]]
  | more + 1, low, high =>
    let block := Nat.pow 64 (more + 1)
    let a := low / block
    let b := high / block
    if a = b then (digitRanges more (low % block) (high % block)).map (⟨a, a⟩ :: ·)
    else
      let startsWhole := low % block = 0
      let endsWhole := high % block = block - 1
      let head :=
        if startsWhole then []
        else (digitRanges more (low % block) (block - 1)).map (⟨a, a⟩ :: ·)
      let first := if startsWhole then a else a + 1
      let last := if endsWhole then b else b - 1
      let middle :=
        if first ≤ last then [⟨first, last⟩ :: List.replicate (more + 1) ⟨0, 63⟩] else []
      let tail :=
        if endsWhole then [] else (digitRanges more 0 (high % block)).map (⟨b, b⟩ :: ·)
      head ++ middle ++ tail

/-- Code points whose encodings have the same length. -/
structure LengthClass where
  first : Nat
  last : Nat
  /-- What is added to the first digit to give the first byte. -/
  lead : Nat
  /-- The number of bytes behind the first one. -/
  trailing : Nat

/-- The characters by the length of their encodings, surrogates left out. -/
def lengthClasses : List LengthClass :=
  [⟨0, 0x7F, 0, 0⟩, ⟨0x80, 0x7FF, 0xC0, 1⟩, ⟨0x800, 0xD7FF, 0xE0, 2⟩, ⟨0xE000, 0xFFFF, 0xE0, 2⟩,
    ⟨0x10000, 0x10FFFF, 0xF0, 3⟩]

/-- Turns the ranges of digits into ranges of bytes. -/
def bytesOfDigits (lead : Nat) : List ByteRange → List ByteRange
  | [] => []
  | r :: rest =>
    ⟨lead + r.first, lead + r.last⟩ :: rest.map fun d => ⟨0x80 + d.first, 0x80 + d.last⟩

/-- The sequences of byte ranges of an interval, in increasing order. -/
def rangesOf (i : CodeInterval) : List (List ByteRange) :=
  lengthClasses.flatMap fun p =>
    let low := max i.first p.first
    let high := min i.last p.last
    if low ≤ high then (digitRanges p.trailing low high).map (bytesOfDigits p.lead) else []

end RuleIntake.Utf8
