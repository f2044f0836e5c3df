import RuleIntake.Pattern.Fault

/-!
# Syntax of patterns

The tree of a pattern as it is written. Every node knows its part of the pattern, since faults that
only show later are reported there.
-/

namespace RuleIntake.Pattern

/-- A character. `byte` tells whether it is written as a byte in two hexadecimal digits. -/
structure Literal where
  span : Span
  char : Char
  byte : Bool
deriving DecidableEq, Repr

/-- Conditions on a place of the text. -/
inductive Assertion
  | lineStart
  | lineEnd
  | textStart
  | textEnd
  | wordBoundary
  | noWordBoundary
  | wordStart
  | wordEnd
  | wordStartHalf
  | wordEndHalf
deriving DecidableEq, Repr

/-- Classes with a letter of their own. -/
inductive LetterClass
  | digit
  | space
  | word
deriving DecidableEq, Repr

/-- Classes of ASCII characters with a name of their own. -/
inductive NamedClass
  | alnum
  | alpha
  | ascii
  | blank
  | cntrl
  | digit
  | graph
  | lower
  | print
  | punct
  | space
  | upper
  | word
  | xdigit
deriving DecidableEq, Repr

/-- How a class of Unicode characters is asked for. -/
inductive PropertyQuery
  | named (name : String)
  | valued (property value : String) (negated : Bool)
deriving DecidableEq, Repr

inductive SetOperation
  | intersection
  | difference
  | symmetricDifference
deriving DecidableEq, Repr

mutual

/-- What stands in brackets. -/
inductive ClassSet
  | item (i : ClassItem)
  | operation (span : Span) (op : SetOperation) (lhs rhs : ClassSet)

inductive ClassItem
  | empty (span : Span)
  | literal (l : Literal)
  | range (span : Span) (first last : Literal)
  | ascii (span : Span) (negated : Bool) (kind : NamedClass)
  | unicode (span : Span) (negated : Bool) (query : PropertyQuery)
  | letter (span : Span) (negated : Bool) (kind : LetterClass)
  | bracketed (span : Span) (negated : Bool) (set : ClassSet)
  | union (span : Span) (items : List ClassItem)

end

def ClassItem.span : ClassItem → Span
  | .empty span => span
  | .literal l => l.span
  | .range span _ _ => span
  | .ascii span _ _ => span
  | .unicode span _ _ => span
  | .letter span _ _ => span
  | .bracketed span _ _ => span
  | .union span _ => span

def ClassSet.span : ClassSet → Span
  | .item i => i.span
  | .operation span _ _ _ => span

/-- Switches that change how a pattern is read or what it means. -/
inductive Flag
  | caseInsensitive
  | multiLine
  | dotMatchesNewLine
  | swapGreed
  | unicode
  | crlf
  | ignoreBlanks
deriving DecidableEq, Repr

abbrev FlagSettings := List (Flag × Bool)

/-- How often something is repeated: at least and at most. -/
structure RepetitionRange where
  least : Nat
  most : Option Nat
deriving DecidableEq, Repr

inductive Ast
  | empty (span : Span)
  | flags (span : Span) (settings : FlagSettings)
  | literal (l : Literal)
  | dot (span : Span)
  | assertion (span : Span) (kind : Assertion)
  | unicode (span : Span) (negated : Bool) (query : PropertyQuery)
  | letter (span : Span) (negated : Bool) (kind : LetterClass)
  | bracketed (span : Span) (negated : Bool) (set : ClassSet)
  /-- `sparing` tells whether it is marked to take as little as it can. -/
  | repetition (span : Span) (range : RepetitionRange) (sparing : Bool) (body : Ast)
  | group (span : Span) (capturing : Bool) (settings : FlagSettings) (body : Ast)
  | alternation (span : Span) (branches : List Ast)
  | concat (span : Span) (parts : List Ast)

namespace Ast

def span : Ast → Span
  | empty span => span
  | flags span _ => span
  | literal l => l.span
  | dot span => span
  | assertion span _ => span
  | unicode span _ _ => span
  | letter span _ _ => span
  | bracketed span _ _ => span
  | repetition span _ _ _ => span
  | group span _ _ _ => span
  | alternation span _ => span
  | concat span _ => span

/-- Whether a repetition operator has nothing to repeat behind this. -/
def isUnrepeatable : Ast → Bool
  | empty _ => true
  | flags _ _ => true
  | _ => false

def ofParts (span : Span) : List Ast → Ast
  | [] => empty span
  | [part] => part
  | parts => concat span parts

def ofBranches (span : Span) : List Ast → Ast
  | [branch] => branch
  | branches => alternation span branches

end Ast

end RuleIntake.Pattern
