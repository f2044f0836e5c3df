import RuleIntake.Unicode.Query
import RuleIntake.Pattern.Syntax

/-!
# Expressions

An expression says what a pattern means, once flags and names have been looked up: sets of
characters, conditions on places, and how they are put together.
-/

namespace RuleIntake.Pattern

/-- Conditions on a place of the text. Those about words look at Unicode or at ASCII words. -/
inductive Look
  | textStart
  | textEnd
  | lineStart
  | lineEnd
  | lineStartCrlf
  | lineEndCrlf
  | wordBoundary (unicode : Bool)
  | noWordBoundary (unicode : Bool)
  | wordStart (unicode : Bool)
  | wordEnd (unicode : Bool)
  | wordStartHalf (unicode : Bool)
  | wordEndHalf (unicode : Bool)
deriving DecidableEq, Repr

/-- What a pattern means. `text` holds at least one character. -/
inductive Expr
  | empty
  | text (cs : List Char)
  | chars (set : CharSet)
  | look (l : Look)
  /-- `sparing` tells whether fewer repetitions are tried before more. -/
  | repetition (range : RepetitionRange) (sparing : Bool) (body : Expr)
  | capture (body : Expr)
  | concat (parts : List Expr)
  | alternation (branches : List Expr)

def asciiWord : CharSet := .ofText "30-39 41-5A 5F 61-7A"

/-- Whether a character beside a place belongs to a word. -/
def isWordChar (unicode : Bool) : Option Char → Bool
  | none => false
  | some c => (if unicode then Unicode.word else asciiWord).contains c.toNat

namespace Look

def holds (l : Look) (before after : Option Char) : Bool :=
  match l with
  | textStart => before.isNone
  | textEnd => after.isNone
  | lineStart => before.isNone || before == some '\n'
  | lineEnd => after.isNone || after == some '\n'
  | lineStartCrlf =>
    before.isNone || before == some '\n' || (before == some '\r' && after != some '\n')
  | lineEndCrlf =>
    after.isNone || after == some '\r' || (after == some '\n' && before != some '\r')
  | wordBoundary unicode => isWordChar unicode before != isWordChar unicode after
  | noWordBoundary unicode => isWordChar unicode before == isWordChar unicode after
  | wordStart unicode => !isWordChar unicode before && isWordChar unicode after
  | wordEnd unicode => isWordChar unicode before && !isWordChar unicode after
  | wordStartHalf unicode => !isWordChar unicode before
  | wordEndHalf unicode => !isWordChar unicode after

end Look

namespace Expr

mutual

/-- Whether an expression never takes a character. -/
def isZeroWidth : Expr → Bool
  | empty => true
  | text cs => cs.isEmpty
  | chars _ => false
  | look _ => true
  | repetition _ _ body => isZeroWidth body
  | capture body => isZeroWidth body
  | concat parts => allZeroWidth parts
  | alternation branches => allZeroWidth branches

def allZeroWidth : List Expr → Bool
  | [] => true
  | e :: rest => isZeroWidth e && allZeroWidth rest

end

mutual

/-- Whether two expressions are written the same. -/
def same : Expr → Expr → Bool
  | empty, empty => true
  | text cs, text ds => cs == ds
  | chars s, chars t => s == t
  | look l, look k => l == k
  | repetition r sparing a, repetition q sparing' b => r == q && sparing == sparing' && same a b
  | capture a, capture b => same a b
  | concat ps, concat qs => allSame ps qs
  | alternation ps, alternation qs => allSame ps qs
  | _, _ => false

def allSame : List Expr → List Expr → Bool
  | [], [] => true
  | a :: as, b :: bs => same a b && allSame as bs
  | _, _ => false

end

/-! ## Building expressions

Expressions are built in a plain form: neighbouring texts are one text, a choice between single
characters is a set, and what all branches of a choice begin with stands before it. -/

/-- A set of characters; a set of one is a text. -/
def ofSet (set : CharSet) : Expr :=
  match set.intervals with
  | [⟨first, last⟩] => if first = last then text [Char.ofNat first] else chars set
  | _ => chars set

/-- A repetition. What takes no character is the same once as many times. -/
def repeated (range : RepetitionRange) (sparing : Bool) (body : Expr) : Expr :=
  let range : RepetitionRange :=
    if body.isZeroWidth then ⟨min range.least 1, some (min (range.most.getD 1) 1)⟩ else range
  if range.most == some 0 then empty
  else if range == ⟨1, some 1⟩ then body
  else repetition range sparing body

def parts : Expr → List Expr
  | empty => []
  | concat ps => ps
  | e => [e]

/-- Makes neighbouring texts one. -/
def joinTexts : List Expr → List Expr
  | [] => []
  | e :: rest =>
    match e, joinTexts rest with
    | text cs, text ds :: later => text (cs ++ ds) :: later
    | e, later => e :: later

/-- One expression after the other. -/
def sequence (es : List Expr) : Expr :=
  match joinTexts (es.flatMap parts) with
  | [] => empty
  | [e] => e
  | ps => concat ps

def branches : Expr → List Expr
  | alternation bs => bs
  | e => [e]

def char? : Expr → Option Char
  | text [c] => some c
  | _ => none

def set? : Expr → Option CharSet
  | chars set => some set
  | _ => none

/-- The set that branches are a choice from: all are single characters, or all are sets. -/
def setOfBranches? (bs : List Expr) : Option CharSet :=
  match bs.mapM char? with
  | some cs => some (.ofIntervals (cs.map fun c => ⟨c.toNat, c.toNat⟩))
  | none => (bs.mapM set?).map .unions

/-- A choice as it stands. -/
def plainChoice (es : List Expr) : Expr :=
  let bs := es.flatMap branches
  match bs with
  | [e] => e
  | _ =>
    match setOfBranches? bs with
    | some set => ofSet set
    | none => alternation bs

/-- How many parts two sequences have in common at the beginning. -/
def commonParts : List Expr → List Expr → Nat
  | a :: as, b :: bs => if same a b then commonParts as bs + 1 else 0
  | _, _ => 0

/-- The parts of an expression that has several. -/
def severalParts? : Expr → Option (List Expr)
  | concat ps => some ps
  | _ => none

/-- A choice. What all branches begin with, if each has several parts, is taken out of it. -/
def choice (es : List Expr) : Expr :=
  match plainChoice es with
  | alternation bs =>
    match bs.mapM severalParts? with
    | some (first :: others) =>
      let common := others.foldl (fun n ps => min n (commonParts first ps)) first.length
      if common = 0 then alternation bs
      else
        let tails := (first :: others).map fun ps => sequence (ps.drop common)
        sequence (first.take common ++ [plainChoice tails])
    | _ => alternation bs
  | e => e

end Expr

end RuleIntake.Pattern
