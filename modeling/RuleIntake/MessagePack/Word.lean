/-!
# Words of bytes

Lengths and numbers of MessagePack are words of a fixed number of bytes, the most significant byte
first.
-/

namespace RuleIntake.MessagePack

/-- The last bytes of a natural, as many as the width says. -/
def wordBytes : Nat → Nat → List UInt8
  | 0, _ => []
  | width + 1, n => wordBytes width (n / 256) ++ [.ofNat (n % 256)]

def wordValue (bytes : List UInt8) : Nat := bytes.foldl (fun n b => 256 * n + b.toNat) 0

/-- The given number of bytes and those after them, if there are as many. -/
def split? : Nat → List UInt8 → Option (List UInt8 × List UInt8)
  | 0, bytes => some ([], bytes)
  | _ + 1, [] => none
  | n + 1, b :: rest => (split? n rest).map fun (taken, after) => (b :: taken, after)

/-- Reads a word as a number with sign, in two's complement. -/
def signedValue (width n : Nat) : Int :=
  if n < 1 <<< (8 * width - 1) then n else (n : Int) - (1 <<< (8 * width) : Nat)

theorem length_wordBytes (width n : Nat) : (wordBytes width n).length = width := by
  induction width generalizing n with
  | zero => rfl
  | succ width ih => simp [wordBytes, ih]

end RuleIntake.MessagePack
