import RuleIntake.Pattern.Syntax
import RuleIntake.Unicode.Query

/-!
# Going through a pattern

A `Scan` is what is left of a pattern, with its place. Where blanks are ignored, they are skipped
together with comments, which go from `#` to the end of the line.
-/

namespace RuleIntake.Pattern

/-- Where the reading of a pattern is. -/
structure Scan where
  rest : List Char
  place : Place
  /-- Whether blanks and comments are skipped. -/
  ignoreBlanks : Bool
  /-- The names of groups so far, each with its place. -/
  names : List (String × Span)

namespace Scan

def ofString (pattern : String) : Scan := ⟨pattern.toList, .start, false, []⟩

def isBlank (c : Char) : Bool := Unicode.space.contains c.toNat

def atEnd (s : Scan) : Bool := s.rest.isEmpty

def next? (s : Scan) : Option Char := s.rest.head?

def startsWith (s : Scan) (c : Char) : Bool := s.next? == some c

def bump (s : Scan) : Scan :=
  match s.rest with
  | [] => s
  | c :: rest => { s with rest := rest, place := s.place.after c }

def bumpBy (s : Scan) : Nat → Scan
  | 0 => s
  | n + 1 => s.bump.bumpBy n

def after? (s : Scan) (text : String) : Option Scan :=
  if text.toList.isPrefixOf s.rest then some (s.bumpBy text.length) else none

/-- Leaves blanks and comments behind, from inside a comment or not. -/
def skipFrom (inComment : Bool) : List Char → Place → List Char × Place
  | [], p => ([], p)
  | c :: rest, p =>
    if inComment then skipFrom (c ≠ '\n') rest (p.after c)
    else if isBlank c then skipFrom false rest (p.after c)
    else if c = '#' then skipFrom true rest (p.after c)
    else (c :: rest, p)

/-- Leaves blanks and comments behind if they are ignored. -/
def skipBlanks (s : Scan) : Scan :=
  if s.ignoreBlanks then
    let (rest, place) := skipFrom false s.rest s.place
    { s with rest := rest, place := place }
  else s

def bumpSkip (s : Scan) : Scan := s.bump.skipBlanks

def spanNext (s : Scan) : Span := ⟨s.place, s.bump.place⟩

def spanHere (s : Scan) : Span := .emptyAt s.place

def second? (s : Scan) : Option Char := s.rest.tail.head?

/-- The first character that is no blank. Of a comment, everything but its sign and its blanks
counts. -/
def visible? (inComment : Bool) : List Char → Option Char
  | [] => none
  | c :: rest =>
    if isBlank c then visible? inComment rest
    else if !inComment && c = '#' then visible? true rest
    else some c

/-- The character after the next one, blanks passed over if they are ignored and something else
follows. -/
def secondVisible? (s : Scan) : Option Char :=
  if s.ignoreBlanks then
    match s.rest with
    | [] => none
    | _ :: rest => (visible? false rest).or rest.head?
  else s.second?

end Scan

end RuleIntake.Pattern
