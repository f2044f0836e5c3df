/-!
# Sets of code points

A `CharSet` lists closed intervals of code points in increasing order. Union sorts and joins
intervals, the complement lists the gaps, and the other set operations are built from those two.
`CharSet.ofText` reads the compact notation in which the property tables are written.
-/

namespace RuleIntake

/-- The code points from `first` to `last`, both included. -/
structure CodeInterval where
  first : Nat
  last : Nat
deriving DecidableEq, Repr

/-- A set of code points: disjoint intervals in increasing order with gaps between them. -/
structure CharSet where
  intervals : List CodeInterval
deriving DecidableEq, Repr

namespace CharSet

def maxCodePoint : Nat := 0x10FFFF

/-- Joins intervals that touch or overlap, given in increasing order of their first points. -/
def join (current : CodeInterval) : List CodeInterval → List CodeInterval
  | [] => [current]
  | next :: rest =>
    if next.first ≤ current.last + 1 then
      join ⟨current.first, max current.last next.last⟩ rest
    else
      current :: join next rest

/-- The set covered by intervals in any order. -/
def ofIntervals (intervals : List CodeInterval) : CharSet :=
  match intervals.mergeSort (fun a b => a.first ≤ b.first) with
  | [] => ⟨[]⟩
  | first :: rest => ⟨join first rest⟩

def empty : CharSet := ⟨[]⟩

def interval (first last : Nat) : CharSet := ⟨[⟨first, last⟩]⟩

def singleton (c : Nat) : CharSet := interval c c

def union (a b : CharSet) : CharSet := ofIntervals (a.intervals ++ b.intervals)

def unions (sets : List CharSet) : CharSet := ofIntervals (sets.flatMap (·.intervals))

/-- The code points that belong to no character on their own. -/
def surrogates : CharSet := interval 0xD800 0xDFFF

/-- What lies between the given intervals, from `start` on. -/
def gaps (start : Nat) : List CodeInterval → List CodeInterval
  | [] => if start ≤ maxCodePoint then [⟨start, maxCodePoint⟩] else []
  | i :: rest =>
    if start < i.first then ⟨start, i.first - 1⟩ :: gaps (i.last + 1) rest
    else gaps (i.last + 1) rest

/-- The characters outside the set. Surrogates are no characters and never in a complement. -/
def complement (a : CharSet) : CharSet := ⟨gaps 0 (a.union surrogates).intervals⟩

def inter (a b : CharSet) : CharSet := (a.complement.union b.complement).complement

def diff (a b : CharSet) : CharSet := (a.complement.union b).complement

def symmDiff (a b : CharSet) : CharSet := (a.diff b).union (b.diff a)

def isEmpty (a : CharSet) : Bool := a.intervals.isEmpty

def covers (c : Nat) : List CodeInterval → Bool
  | [] => false
  | i :: rest => if c < i.first then false else c ≤ i.last || covers c rest

def contains (a : CharSet) (c : Nat) : Bool := covers c a.intervals

def size (a : CharSet) : Nat := a.intervals.foldl (fun n i => n + (i.last + 1 - i.first)) 0

/-- The members of the set in increasing order. -/
def toList (a : CharSet) : List Char :=
  a.intervals.flatMap fun i =>
    (List.range (i.last + 1 - i.first)).map fun k => Char.ofNat (i.first + k)

def isAscii (a : CharSet) : Bool := a.intervals.all (·.last ≤ 0x7F)

/-! ## Compact notation -/

/-- The value of a hexadecimal digit, and zero for any other character. -/
def hexDigit (c : Char) : Nat :=
  if '0' ≤ c ∧ c ≤ '9' then c.toNat - 48
  else if 'A' ≤ c ∧ c ≤ 'F' then c.toNat - 55
  else if 'a' ≤ c ∧ c ≤ 'f' then c.toNat - 87
  else 0

def hexValue (s : String) : Nat := s.toList.foldl (fun n c => 16 * n + hexDigit c) 0

/-- One item: `41` is a code point, `41-5A` an interval, `100-136/2` every second point of one. -/
def itemIntervals (item : String) : List CodeInterval :=
  match item.splitOn "/" with
  | [bounds] =>
    match bounds.splitOn "-" with
    | [first, last] => [⟨hexValue first, hexValue last⟩]
    | _ => [⟨hexValue bounds, hexValue bounds⟩]
  | [bounds, step] =>
    match bounds.splitOn "-" with
    | [first, last] =>
      let lo := hexValue first
      let stride := hexValue step
      (List.range ((hexValue last - lo) / stride + 1)).map fun k =>
        ⟨lo + k * stride, lo + k * stride⟩
    | _ => []
  | _ => []

def words (text : String) : List String :=
  ((text.map fun c => if c = '\n' then ' ' else c).splitOn " ").filter (· ≠ "")

/-- Reads items separated by blanks and line ends. -/
def ofText (text : String) : CharSet := ofIntervals ((words text).flatMap itemIntervals)

end CharSet

end RuleIntake
