import RuleIntake.Pattern.ByteRank
import RuleIntake.Pattern.Expr

/-!
# Needles

The needles of an expression are byte strings one of which every match begins with. A needle is
exact if its bytes are a whole match. When all needles are exact, finding one of them is finding a
match, and the expression needs no states of its own: `Expr.isPlainSearch`.

Earlier needles are preferred to later ones. Lists of needles are kept short, and what does not fit
is cut down to the first bytes or given up.
-/

namespace RuleIntake.Pattern

/-- Bytes that a match begins with. -/
structure Needle where
  bytes : List UInt8
  exact : Bool
deriving DecidableEq, Repr

/-- The needles of an expression, or `none` if they are too many to list. -/
abbrev Needles : Type := Option (List Needle)

namespace Needle

/-- The whole match of a text. -/
def ofText (cs : List Char) : Needle := ⟨cs.flatMap String.utf8EncodeChar, true⟩

def blank : Needle := ⟨[], true⟩

/-- The same bytes as the beginning of something longer. -/
def loose (n : Needle) : Needle := { n with exact := false }

def cut (length : Nat) (n : Needle) : Needle :=
  if n.bytes.length ≤ length then n else ⟨n.bytes.take length, false⟩

/-- Makes neighbours with the same bytes one, which is exact if all of them are. -/
def merge : List Needle → List Needle
  | [] => []
  | n :: rest =>
    match merge rest with
    | [] => [n]
    | m :: later =>
      if n.bytes = m.bytes then ⟨n.bytes, n.exact && m.exact⟩ :: later else n :: m :: later

/-- Leaves out needles that begin with an earlier one, which is found where they are. -/
def leaveOut (kept : List Needle) : List Needle → List Needle
  | [] => kept.reverse
  | n :: rest =>
    if kept.any (fun k => k.bytes.isPrefixOf n.bytes) then leaveOut kept rest
    else leaveOut (n :: kept) rest

end Needle

namespace Needles

def maxCount : Nat := 250

def maxLength : Nat := 100

/-- The greatest number of characters of a set that is spelled out. -/
def maxSetSize : Nat := 10

/-- The greatest number of repetitions that are spelled out. -/
def maxRepetitions : Nat := 10

/-- Whether no needle is exact, so that nothing can be said about what follows. -/
def isLoose : Needles → Bool
  | none => true
  | some ns => ns.all (!·.exact)

def loose (ns : Needles) : Needles := ns.map (·.map Needle.loose)

/-- Needles of the first kind followed by needles of the second. -/
def cross (a b : Needles) : Needles := do
  let ns ← a
  let followers := b.filter fun ms => ns.length * ms.length ≤ maxCount
  let crossed ←
    match followers with
    | none => if ns.any (·.bytes.isEmpty) then none else some (ns.map Needle.loose)
    | some ms =>
      some <| Needle.merge <| ns.flatMap fun n =>
        if n.exact then ms.map fun m => ⟨n.bytes ++ m.bytes, m.exact⟩ else [n]
  return crossed.map (Needle.cut maxLength)

/-- Needles of either kind. -/
def union (a b : Needles) : Needles := do
  let ns ← a
  let ms ← b
  if ns.length + ms.length ≤ maxCount then return Needle.merge (ns ++ ms)
  else
    let short (ls : List Needle) := Needle.merge (ls.map (Needle.cut 4))
    if (short ns).length + (short ms).length ≤ maxCount then
      return Needle.merge (short ns ++ short ms)
    else none

/-- The needles of a number of repetitions, put behind those of what comes before. -/
def power (body : Needles) : Nat → Needles → Needles
  | 0, before => before
  | n + 1, before => if isLoose before then before else power body n (cross before body)

/-- The needles of a repetition. Those of no repetition come last unless few are preferred. -/
def repeated (range : RepetitionRange) (sparing : Bool) (body : Needles) : Needles :=
  if range.least = 0 then
    let nothing := some [Needle.blank]
    let more := if range.most == some 1 then body else loose body
    if sparing then union nothing more else union more nothing
  else
    let spelled := power body (min range.least maxRepetitions) (some [Needle.blank])
    if range.most == some range.least && range.least ≤ maxRepetitions then spelled
    else loose spelled

/-! ## Tuning

Needles are tuned for speed. A few rare bytes are better than many strings, and a long common
beginning is better than its continuations, but exact needles are given up for good ones only. -/

def commonStart : List UInt8 → List UInt8 → List UInt8
  | a :: as, b :: bs => if a = b then a :: commonStart as bs else []
  | _, _ => []

def commonStartOf : List (List UInt8) → List UInt8
  | [] => []
  | first :: rest => rest.foldl commonStart first

/-- Whether a short beginning starts with a rare byte. -/
def startsRarely : List UInt8 → Bool
  | [] => false
  | b :: rest => rest.length ≤ 2 && byteRank b < rareRank

/-- Whether searching for a needle would stop nearly everywhere. -/
def isUseless (n : Needle) : Bool :=
  match n.bytes with
  | [] => true
  | [b] => commonRank ≤ byteRank b
  | _ => false

/-- Lengths to which needles are cut while they are more than the number beside it. -/
def cuts : List (Nat × Nat) := [(5, 10), (4, 10), (3, 64), (2, 64), (1, 10)]

/-- Cuts needles until they are few enough. -/
def shorten (ns : List Needle) : List (Nat × Nat) → List Needle
  | [] => ns
  | (length, enough) :: rest =>
    if ns.length ≤ enough then ns
    else shorten (Needle.leaveOut [] (ns.map (Needle.cut length))) rest

/-- The needles that are searched for. -/
def tuned (ns : List Needle) : Needles :=
  if ns.any (·.bytes.isEmpty) then none
  else
    let least := Needle.leaveOut [] ns
    let common := commonStartOf (least.map (·.bytes))
    let cutAll (length : Nat) := Needle.merge (least.map (Needle.cut length))
    if 1 < ns.length && startsRarely common then some (cutAll 1)
    else
      let fewExact := least.all (·.exact) && least.length ≤ 16
      let base :=
        if 4 < common.length || (1 < common.length && !fewExact) then cutAll common.length
        else least
      let short := shorten base cuts
      let isPoor := short.any (fun n => isUseless n || n.bytes.length ≤ 2) || 64 < short.length
      if base.all (·.exact) && isPoor then some base
      else if short.any isUseless then none
      else some short

end Needles

mutual

/-- The needles of an expression. -/
def Expr.needles : Expr → Needles
  | .empty => some [Needle.blank]
  | .text cs => some [(Needle.ofText cs).cut Needles.maxLength]
  | .chars set =>
    if set.size ≤ Needles.maxSetSize then some (set.toList.map fun c => Needle.ofText [c])
    else none
  | .look _ => some [Needle.blank]
  | .repetition range sparing body => Needles.repeated range sparing body.needles
  | .capture body => body.needles
  | .concat parts => crossedNeedles (some [Needle.blank]) parts
  | .alternation branches => unitedNeedles (some []) branches

/-- The needles of a sequence, put behind those of what comes before. -/
def crossedNeedles (before : Needles) : List Expr → Needles
  | [] => before
  | e :: rest =>
    if before.isLoose then before else crossedNeedles (before.cross e.needles) rest

/-- The needles of a choice, together with those of earlier branches. -/
def unitedNeedles (before : Needles) : List Expr → Needles
  | [] => before
  | e :: rest => if before.isNone then before else unitedNeedles (before.union e.needles) rest

end

mutual

/-- Whether an expression has neither groups nor conditions. -/
def Expr.isBare : Expr → Bool
  | .empty | .text _ | .chars _ => true
  | .look _ | .capture _ => false
  | .repetition _ _ body => body.isBare
  | .concat parts => allBare parts
  | .alternation branches => allBare branches

def allBare : List Expr → Bool
  | [] => true
  | e :: rest => e.isBare && allBare rest

end

/-- The texts of a choice between texts. -/
def Expr.texts? : Expr → Option (List (List Char))
  | .alternation branches =>
    branches.mapM fun
      | .text cs => some cs
      | _ => none
  | _ => none

/-- How many texts make a dictionary, which is searched for as it stands. -/
def dictionarySize : Nat := 3000

/-- Whether an expression is matched by a search for fixed strings. -/
def Expr.isPlainSearch (e : Expr) : Bool :=
  e.isBare &&
    ((e.needles.bind Needles.tuned).any (fun ns => !ns.isEmpty && ns.all (·.exact)) ||
      e.texts?.any (dictionarySize ≤ ·.length))

end RuleIntake.Pattern
