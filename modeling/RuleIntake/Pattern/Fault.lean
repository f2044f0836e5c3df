/-!
# Faults of patterns

A pattern that is no regular expression is refused with a fault and the part of the pattern where
it lies. A fault that is about a repetition of something also tells where that was before.
-/

namespace RuleIntake.Pattern

/-- A place in a pattern. Lines and columns count from one, columns count code points. -/
structure Place where
  index : Nat
  line : Nat
  column : Nat
deriving DecidableEq, Repr

namespace Place

def start : Place := ⟨0, 1, 1⟩

def after (p : Place) (c : Char) : Place :=
  if c = '\n' then ⟨p.index + 1, p.line + 1, 1⟩ else ⟨p.index + 1, p.line, p.column + 1⟩

end Place

structure Span where
  first : Place
  last : Place
deriving DecidableEq, Repr

namespace Span

def emptyAt (p : Place) : Span := ⟨p, p⟩

def isOneLine (s : Span) : Bool := s.first.line == s.last.line

end Span

inductive Fault
  | unclosedGroup
  | unopenedGroup
  | unclosedClass
  | missingExpression
  | missingCount
  | unclosedCount
  | reversedCount
  | invalidDecimal
  | endInEscape
  | unknownEscape
  | escapeInClass
  | reversedRange
  | invalidRangeBound
  | backreference
  | emptyHexadecimal
  | invalidHexDigit
  | invalidHexadecimal
  | invalidUnicodeClass
  | unknownProperty
  | unknownPropertyValue
  | unicodeNotAllowed
  | invalidUtf8
  | endInFlags
  | danglingNegation
  | repeatedNegation (before : Span)
  | duplicateFlag (before : Span)
  | unknownFlag
  | lookAround
  | emptyName
  | invalidNameCharacter
  | unclosedName
  | duplicateName (before : Span)
  | unclosedBoundary
  | unknownBoundary
  | endInBoundary
  | tooNested (limit : Nat)
deriving DecidableEq, Repr

namespace Fault

def text : Fault → String
  | unclosedGroup => "unclosed group"
  | unopenedGroup => "unopened group"
  | unclosedClass => "unclosed character class"
  | missingExpression => "repetition operator missing expression"
  | missingCount => "repetition quantifier expects a valid decimal"
  | unclosedCount => "unclosed counted repetition"
  | reversedCount => "invalid repetition count range, the start must be <= the end"
  | invalidDecimal => "decimal literal invalid"
  | endInEscape => "incomplete escape sequence, reached end of pattern prematurely"
  | unknownEscape => "unrecognized escape sequence"
  | escapeInClass => "invalid escape sequence found in character class"
  | reversedRange => "invalid character class range, the start must be <= the end"
  | invalidRangeBound => "invalid range boundary, must be a literal"
  | backreference => "backreferences are not supported"
  | emptyHexadecimal => "hexadecimal literal empty"
  | invalidHexDigit => "invalid hexadecimal digit"
  | invalidHexadecimal => "hexadecimal literal is not a Unicode scalar value"
  | invalidUnicodeClass => "invalid Unicode character class"
  | unknownProperty => "Unicode property not found"
  | unknownPropertyValue => "Unicode property value not found"
  | unicodeNotAllowed => "Unicode not allowed here"
  | invalidUtf8 => "pattern can match invalid UTF-8"
  | endInFlags => "expected flag but got end of regex"
  | danglingNegation => "dangling flag negation operator"
  | repeatedNegation _ => "flag negation operator repeated"
  | duplicateFlag _ => "duplicate flag"
  | unknownFlag => "unrecognized flag"
  | lookAround => "look-around, including look-ahead and look-behind, is not supported"
  | emptyName => "empty capture group name"
  | invalidNameCharacter => "invalid capture group character"
  | unclosedName => "unclosed capture group name"
  | duplicateName _ => "duplicate capture group name"
  | unclosedBoundary =>
    "special word boundary assertion is either unclosed or contains an invalid character"
  | unknownBoundary =>
    "unrecognized special word boundary assertion, valid choices are: " ++
      "start, end, start-half or end-half"
  | endInBoundary =>
    "found either the beginning of a special word boundary or a bounded repetition on a " ++
      "\\b with an opening brace, but no closing brace"
  | tooNested limit =>
    "exceed the maximum number of nested parentheses/brackets (" ++ toString limit ++ ")"

/-- Where the same thing was before. -/
def before? : Fault → Option Span
  | repeatedNegation span => some span
  | duplicateFlag span => some span
  | duplicateName span => some span
  | _ => none

end Fault

structure FaultAt where
  fault : Fault
  span : Span
deriving DecidableEq, Repr

def refuse {α : Type} (fault : Fault) (span : Span) : Except FaultAt α := .error ⟨fault, span⟩

end RuleIntake.Pattern
