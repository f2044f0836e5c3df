import RuleIntake.Pattern.Needles
import RuleIntake.Text.Utf8Ranges

/-!
# Sizes of compiled patterns

What a compiled pattern takes is estimated in bytes: a state for every byte of a text, for every
branching and for every condition, with repetitions written out. Texts and characters that begin
alike share their states. A pattern that is matched by a search for fixed strings has no states and
takes nothing.
-/

namespace RuleIntake.Pattern

/-- The bytes of one state. -/
def stateBytes : Nat := 32

/-- The bytes of a way out of a state that branches. -/
def exitBytes : Nat := 4

/-- The bytes of a way out of a state that depends on the next byte. -/
def transitionBytes : Nat := 8

/-- The bytes of a state that goes back or on. -/
def forkBytes : Nat := stateBytes + 2 * exitBytes

/-- How many items two lists both begin with. -/
def sharedLength {α : Type} [DecidableEq α] : List α → List α → Nat
  | a :: as, b :: bs => if a = b then sharedLength as bs + 1 else 0
  | _, _ => 0

/-- How many items of lists in order are not shared with the list before. -/
def unsharedLength {α : Type} [DecidableEq α] (before : List α) : List (List α) → Nat
  | [] => 0
  | items :: rest => items.length - sharedLength before items + unsharedLength items rest

/-- The bytes for one character of a set. -/
def setBytes (set : CharSet) : Nat :=
  if set.isAscii then 2 * stateBytes + transitionBytes * set.intervals.length
  else
    let sequences := set.intervals.flatMap Utf8.rangesOf
    2 * stateBytes + exitBytes * sequences.length + stateBytes * unsharedLength [] sequences

/-- How many byte strings in order are not the beginning of the next one. -/
def endCount : List (List UInt8) → Nat
  | [] => 0
  | [_] => 1
  | a :: b :: rest => (if a.isPrefixOf b then 0 else 1) + endCount (b :: rest)

/-- The bytes for byte strings that share their beginnings. -/
def sharedBytes (strings : List (List UInt8)) : Nat :=
  let sorted := strings.mergeSort fun a b => a ≤ b
  let inner := unsharedLength [] sorted + 1 - endCount sorted
  stateBytes + inner * (2 * stateBytes + exitBytes) + transitionBytes * endCount sorted

/-- The bytes for one of several texts, read from either end. -/
def textsBytes (texts : List (List Char)) : Nat :=
  let strings := texts.map (·.flatMap String.utf8EncodeChar)
  max (sharedBytes strings) (sharedBytes (strings.map List.reverse))

/-- The bytes of a repetition. The body takes the given number; `isSolid` tells whether it always
takes a character. -/
def repetitionBytes (range : RepetitionRange) (body : Nat) (isSolid : Bool) : Nat :=
  match range.most with
  | none =>
    if range.least = 0 then body + forkBytes + (if isSolid then 0 else forkBytes + stateBytes)
    else range.least * body + forkBytes
  | some most =>
    if most = range.least then most * body
    else
      (if range.least = 0 then stateBytes else range.least * body) + stateBytes +
        (most - range.least) * (body + forkBytes)

mutual

/-- Whether an expression always takes a character. -/
def Expr.isSolid : Expr → Bool
  | .empty | .look _ => false
  | .text cs => !cs.isEmpty
  | .chars set => !set.isEmpty
  | .repetition range _ body => 0 < range.least && body.isSolid
  | .capture body => body.isSolid
  | .concat parts => anySolid parts
  | .alternation branches => allSolid branches

def anySolid : List Expr → Bool
  | [] => false
  | e :: rest => e.isSolid || anySolid rest

def allSolid : List Expr → Bool
  | [] => true
  | e :: rest => e.isSolid && allSolid rest

end

mutual

def Expr.bytes : Expr → Nat
  | .empty => stateBytes
  | .text cs => stateBytes * (cs.foldl (fun n c => n + c.utf8Size) 0)
  | .chars set => setBytes set
  | .look _ => stateBytes
  | .repetition range _ body => repetitionBytes range body.bytes body.isSolid
  | .capture body => 2 * stateBytes + body.bytes
  | .concat parts => bytesOf parts
  | .alternation branches =>
    match (Expr.alternation branches).texts? with
    | some texts => textsBytes texts
    | none => 2 * stateBytes + exitBytes * branches.length + bytesOf branches

def bytesOf : List Expr → Nat
  | [] => 0
  | e :: rest => e.bytes + bytesOf rest

end

/-- The bytes of what stands around every compiled pattern: skipping what comes before a match, the
match as a whole, and its end. -/
def frameBytes : Nat := 5 * stateBytes + 2 * exitBytes + forkBytes

def Expr.compiledBytes (e : Expr) : Nat := if e.isPlainSearch then 0 else frameBytes + e.bytes

end RuleIntake.Pattern
